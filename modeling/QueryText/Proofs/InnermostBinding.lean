import QueryText.Proofs.Deferral

namespace QueryText

namespace Execute

def unset? (params : ParamMap) : List Binding → Option Param
  | [] => none
  | .value _ :: bs => unset? params bs
  | .param p :: bs =>
    match params.get? p with
    | none => some p
    | some _ => unset? params bs

def lookUp (params : ParamMap) : Binding → Value
  | .value v => v
  | .param p => (params.get? p).getD .null

theorem resolveAll_of_unset {params : ParamMap} {bs : List Binding} {p : Param}
    (h : unset? params bs = some p) : resolveAll params bs = .error (.parameterNotSet p) := by
  induction bs with
  | nil => cases h
  | cons b bs ih =>
    cases b with
    | value v =>
      rw [resolveAll, ih h]
      rfl
    | param q =>
      simp only [unset?, resolveAll] at h ⊢
      cases hq : params.get? q with
      | none =>
        rw [hq] at h
        obtain rfl := Option.some.inj h
        rfl
      | some v =>
        rw [hq] at h
        simp only [ih h]
        rfl

theorem resolveAll_of_set {params : ParamMap} {bs : List Binding} (h : unset? params bs = none) :
    resolveAll params bs = .ok (bs.map (lookUp params)) := by
  induction bs with
  | nil => rfl
  | cons b bs ih =>
    cases b with
    | value v =>
      rw [resolveAll, ih h]
      rfl
    | param q =>
      simp only [unset?, resolveAll] at h ⊢
      cases hq : params.get? q with
      | none => simp [hq] at h
      | some v =>
        rw [hq] at h
        simp only [ih h, List.map_cons, lookUp, hq]
        rfl

/-- Deferred parameters are looked up as their innermost values when the change itself gives them
those. -/
theorem lookUp_eq_iff {ns : List Node} {params : ParamMap} {bs es : List Binding}
    (h : List.Forall₂ (Deferral ns) bs es) (hu : unset? params bs = none) :
    bs.map (lookUp params) = es.map (lookUp params) ↔
      ∀ p v, (Binding.param p, Binding.value v) ∈ bs.zip es → params.get? p = some v := by
  induction h with
  | nil => simp
  | cons h _ ih =>
    cases h with
    | known v => simpa [lookUp] using ih hu
    | @bound scopes p v hn hv hi =>
      simp only [unset?] at hu
      cases hp : params.get? p with
      | none => simp [hp] at hu
      | some w =>
        rw [hp] at hu
        simp only [List.map_cons, lookUp, hp, List.cons.injEq, ih hu, List.zip_cons_cons,
          List.mem_cons, Prod.mk.injEq, Binding.param.injEq, Binding.value.injEq]
        constructor
        · rintro ⟨rfl, hrest⟩ q u (⟨rfl, rfl⟩ | hm)
          · exact hp
          · exact hrest q u hm
        · intro hall
          refine ⟨?_, fun q u hm => hall q u (.inr hm)⟩
          have hpv := hall p v (.inl ⟨rfl, rfl⟩)
          rw [hp] at hpv
          exact Option.some.inj hpv
    | @unbound scopes p hn hv =>
      simp only [unset?] at hu
      cases hp : params.get? p with
      | none => simp [hp] at hu
      | some w =>
        rw [hp] at hu
        simpa [lookUp, hp] using ih hu

/-- Both lists of bindings are looked up alike exactly when the same parameter is found without a
value, or all have one and the deferred parameters have their innermost ones. -/
theorem resolveAll_eq_iff {ns : List Node} {params : ParamMap} {bs es : List Binding}
    (h : List.Forall₂ (Deferral ns) bs es) :
    resolveAll params bs = resolveAll params es ↔
      unset? params bs = unset? params es ∧
        (unset? params bs = none →
          ∀ p v, (Binding.param p, Binding.value v) ∈ bs.zip es → params.get? p = some v) := by
  cases hb : unset? params bs with
  | some p =>
    rw [resolveAll_of_unset hb]
    cases he : unset? params es with
    | some q =>
      rw [resolveAll_of_unset he]
      simp
    | none =>
      rw [resolveAll_of_set he]
      simp
  | none =>
    rw [resolveAll_of_set hb]
    cases he : unset? params es with
    | some q =>
      rw [resolveAll_of_unset he]
      simp
    | none =>
      rw [resolveAll_of_set he, Except.ok.injEq, lookUp_eq_iff h hb]
      simp

end Execute

namespace Binding

def isParam : Binding → Bool
  | value _ => false
  | param _ => true

end Binding

mutual

theorem literal_error (r : Rules) :
    (v : Value) → (e : QueryError) → r.literal v = .error e → ∀ p, e ≠ .parameterNotSet p
  | .null, _, h | .bool _, _, h | .int _, _, h | .uint _, _, h | .text _, _, h => by
    simp [Rules.literal] at h
  | .float x, e, h => by
    simp only [Rules.literal, Rules.floatLiteral] at h
    split at h <;> cases h
    simp
  | .date _, e, h | .time _, e, h | .dateTime _, e, h | .bytes _, e, h => by
    simp only [Rules.literal, Rules.wrapped] at h
    split at h <;> cases h
    simp
  | .list items, e, h => by
    simp only [Rules.literal] at h
    split at h
    · split at h
      · cases h
      · next hf =>
        cases h
        exact literalAll_error r items _ hf
    · cases h
      simp

theorem literalAll_error (r : Rules) :
    (vs : List Value) → (e : QueryError) → r.literalAll vs = .error e → ∀ p, e ≠ .parameterNotSet p
  | [], _, h => by simp [Rules.literalAll] at h
  | v :: vs, e, h => by
    simp only [Rules.literalAll] at h
    split at h
    · next hf =>
      cases h
      exact literal_error r v _ hf
    · split at h
      · next hf =>
        cases h
        exact literalAll_error r vs _ hf
      · cases h

end

namespace Render

/-- The first run writes values into the text; its slots are those that wait for a value. -/
def InlinedResult : Except QueryError (List Chunk) → Except QueryError (List Chunk) → Prop
  | .ok xs, y => ∃ ys, y = .ok ys ∧ Chunk.bindings xs = (Chunk.bindings ys).filter Binding.isParam
  | .error e, y => ∀ p, e = .parameterNotSet p → y = .error e

theorem inlinedResult_joined {x y x' y' : Except QueryError (List Chunk)}
    (h : InlinedResult x y) (h' : InlinedResult x' y') : InlinedResult (joined x x') (joined y y') := by
  refine joined_related Iff.rfl (fun hs hs' => ?_) (fun _ hy p hp => by rw [hy p hp]; rfl)
    (fun _ hy p hp => by rw [hy p hp]; rfl) h h'
  rw [Chunk.bindings_append, Chunk.bindings_append, List.filter_append, hs, hs']

open Operand

structure InlinedContexts (c d : Context) : Prop where
  mode : d.mode = .deferring
  inlining : d.inlining = false
  eq : c = { d with inlining := true }

namespace InlinedContexts

variable {c d : Context}

theorem mode' (h : InlinedContexts c d) : c.mode = .deferring := by
  rw [h.eq]
  exact h.mode

theorem resolve (h : InlinedContexts c d) (p : Param) : c.resolve p = d.resolve p := by
  rw [h.eq]
  rfl

theorem writeValue (h : InlinedContexts c d) (v : Value) :
    InlinedResult (Operand.writeValue v c) (Operand.writeValue v d) := by
  have hd : d.Binds := ⟨by simp [h.mode], h.inlining⟩
  have hi : c.inlining = true := by rw [h.eq]
  rw [writeValue_eq v d hd, writeValue_literal (by simp [h.mode']) hi]
  cases hl : c.rules.literal v with
  | error e =>
    intro p hp
    exact absurd hp (literal_error c.rules v e hl p)
  | ok s =>
    refine ⟨_, rfl, ?_⟩
    rw [Chunk.bindings_ofValue]
    induction d.rules.slotValues v with
    | nil => rfl
    | cons w ws ih => exact ih

end InlinedContexts

def inlinedCoupling : Coupling where
  contexts := InlinedContexts
  results := InlinedResult
  rules_alike {c d} h := ⟨c.rules.flattensLists, by rw [h.eq]; rfl⟩
  nested_cases h := .inl (by rw [h.eq])
  comparing h p := ⟨h.mode, h.inlining, by rw [h.eq]⟩
  candidate h p := ⟨h.mode, h.inlining, by rw [h.eq]⟩
  nothing := ⟨[], rfl, rfl⟩
  text s := ⟨[.text s], rfl, rfl⟩
  fail e he p hp := absurd hp (he p)
  join := inlinedResult_joined
  path {c d} h p := by
    have hp : writePath p c = writePath p d := by
      refine writePath_congr ⟨c.rules.flattensLists, ?_⟩ ?_ ?_ ?_ p <;> rw [h.eq]
      rfl
    rw [hp]
    obtain ⟨e, he⟩ | ⟨s, hs⟩ := writePath_cases p d
    · rw [he]
      exact fun _ _ => rfl
    · rw [hs]
      exact ⟨_, rfl, rfl⟩
  wildcards := True
  wildcardText h _ s := h.writeValue (.text s)

theorem constant_inlined (v : Value) : inlinedCoupling.CoupledOperand (.constant v) (.constant v) :=
  .constant fun _ _ hc => hc.writeValue v

theorem param_inlined (p : Param) : inlinedCoupling.CoupledOperand (.param p) (.param p) :=
  .param
    (Coupling.writeParam_coupled (fun _ _ hc => hc.resolve p)
      (fun _ _ hc => ⟨hc.mode'.trans hc.mode.symm, by simp [hc.mode]⟩) (fun _ _ => rfl)
      (fun v _ _ hc => hc.writeValue v) fun _ _ _ _ => ⟨_, rfl, rfl⟩)
    (fun _ _ hc => hc.resolve p) fun _ _ _ hc => by rw [hc.mode, hc.mode']

def inlinedCouplings : Couplings .identity fun _ => True where
  at_ _ := inlinedCoupling
  queries _ := ⟨.inl trivial, .inl trivial⟩
  constant _ v _ := constant_inlined v
  param _ p _ := param_inlined p
  operation _ _ _ _ := .inl trivial
  custom _ _ _ _ := .inl trivial
  inside _ _ _ _ h := ⟨h.mode, h.inlining, by rw [h.eq]; rfl⟩
  outside _ _ _ _ h := h

theorem operand_inlined (e : Expr) : inlinedCoupling.CoupledOperand e.operand e.operand := by
  have h := inlinedCouplings.operand_coupled [] e fun _ _ => trivial
  rwa [Expr.substitute_identity] at h

end Render

open Render

namespace Change

/-- The change with its constants bound to slots, whatever it does with them. -/
def bound : Change → Change
  | insert i => insert { i with config.literals := false }
  | update u => update { u with config.literals := false }
  | delete d => delete { d with config.literals := false }

theorem config_bound (ch : Change) : ch.bound.config = { ch.config with literals := false } := by
  cases ch <;> rfl

theorem params_bound (ch : Change) : ch.bound.params = ch.params := by
  cases ch <;> rfl

theorem nodes_bound (ch : Change) : ch.bound.nodes = ch.nodes := by
  cases ch <;> rfl

theorem checked_bound (ch : Change) : ch.bound.checked = ch.checked := by
  cases ch <;> rfl

theorem write_bound (ch : Change) (head : String × Entity) : ch.bound.write head = ch.write head := by
  cases ch <;> rfl

theorem literals_bound (ch : Change) : ch.bound.config.literals = false := by
  rw [config_bound]

theorem bound_of_binding {ch : Change} (h : ch.config.literals = false) : ch.bound = ch := by
  cases ch <;> simp only [config] at h <;> simp only [bound, ← h]

theorem Bare.bound {ch : Change} (h : ch.Bare) : ch.bound.Bare := by
  refine ⟨?_, ?_, ?_⟩
  · rw [config_bound]
    exact h.and
  · rw [config_bound]
    exact h.isIn
  · rw [config_bound, nodes_bound]
    exact h.nodes

theorem context_literals {c : Config} (h : c.literals = true) (params : ParamMap) :
    Statement.context c params =
      { Statement.context { c with literals := false } params with inlining := true } := by
  unfold Statement.context Context.of
  rw [h]

theorem written_inlined {ch : Change} (hl : ch.config.literals = true) :
    (∀ s, ch.written = .ok s →
      ∃ u, ch.bound.written = .ok u ∧ s.bindings = u.bindings.filter Binding.isParam) ∧
    ∀ p, ch.written = .error (.parameterNotSet p) → ch.bound.written = .error (.parameterNotSet p) := by
  rw [written_eq, written_eq, checked_bound]
  cases hx : ch.checked with
  | error e => simp [Except.bind]
  | ok head =>
    have h : InlinedResult (ch.write head (Statement.context ch.config ch.params))
        (ch.write head (Statement.context ch.bound.config ch.bound.params)) := by
      have hcoupled := Coupling.change_coupled ch head fun e _ => operand_inlined e
      rw [ch.mapExprs_id] at hcoupled
      rw [config_bound, params_bound]
      exact hcoupled _ _ ⟨rfl, rfl, context_literals hl ch.params⟩
    simp only [Except.bind, Statement.finish, write_bound]
    cases hw : ch.write head (Statement.context ch.config ch.params) with
    | error e =>
      rw [hw] at h
      refine ⟨fun s hs => by simp [Except.map] at hs, fun p hp => ?_⟩
      obtain rfl : e = .parameterNotSet p := Except.error.inj hp
      rw [h p rfl]
      rfl
    | ok xs =>
      rw [hw] at h
      obtain ⟨ys, hy, hs⟩ := h
      refine ⟨fun s hsx => ?_, fun p hp => by simp [Except.map] at hp⟩
      obtain rfl := Except.ok.inj hsx
      rw [hy]
      exact ⟨_, rfl, hs⟩

/-- The slots of the change among those of the change that binds its constants too. -/
def kept (ch : Change) (bs : List Binding) : List Binding :=
  if ch.config.literals then bs.filter Binding.isParam else bs

theorem written_kept {ch : Change} {s : WrittenStatement} (h : ch.written = .ok s) :
    ∃ u, ch.bound.written = .ok u ∧ s.bindings = ch.kept u.bindings := by
  unfold kept
  cases hl : ch.config.literals with
  | false => exact ⟨s, by rw [bound_of_binding hl, h], rfl⟩
  | true => exact (written_inlined hl).1 s h

/-- Executing the change looks its parameters up as the innermost values around them, and finds one
not set only if no map around it sets it. -/
def BindsInnermost (ch : Change) : Prop :=
  (∀ p, ch.written = .error (.parameterNotSet p) → Unbound ch.nodes p) ∧
    ∀ s, ch.written = .ok s →
      ∃ u t, ch.bound.written = .ok u ∧ ch.bound.eager.written = .ok t ∧
        s.bindings = ch.kept u.bindings ∧
        Execute.resolveAll ch.params u.bindings = Execute.resolveAll ch.params t.bindings

/-- The same parameter is missing when all are looked up in the change's own values, or none is missing
and what is looked up are the innermost values. -/
def GivesInnermost (params : ParamMap) (bs es : List Binding) : Prop :=
  Execute.unset? params bs = Execute.unset? params es ∧
    (Execute.unset? params bs = none →
      ∀ p v, (Binding.param p, Binding.value v) ∈ bs.zip es → params.get? p = some v)

theorem written_error_unbound {ch : Change} (hb : ch.Bare) {p : Param}
    (h : ch.written = .error (.parameterNotSet p)) : Unbound ch.nodes p := by
  have hbound : ch.bound.written = .error (.parameterNotSet p) := by
    cases hl : ch.config.literals with
    | false => rw [bound_of_binding hl, h]
    | true => exact (written_inlined hl).2 p h
  rw [← nodes_bound]
  obtain ⟨e, he, hp⟩ | ⟨s, t, hs, _⟩ := ch.bound.written_deferred hb.bound ch.literals_bound
  · rw [hbound] at he
    exact hp p (Except.error.inj he).symm
  · rw [hbound] at hs
    cases hs

/-- A change without wildcards binds innermost values exactly when its own values are those. -/
theorem bindsInnermost_iff (ch : Change) (hb : ch.Bare) :
    ch.BindsInnermost ↔
      ∀ s u t, ch.written = .ok s → ch.bound.written = .ok u → ch.bound.eager.written = .ok t →
        GivesInnermost ch.params u.bindings t.bindings := by
  have hbound := ch.bound.written_deferred hb.bound ch.literals_bound
  constructor
  · rintro ⟨-, h⟩ s u t hs hu ht
    obtain ⟨u', t', hu', ht', -, heq⟩ := h s hs
    obtain ⟨e, he, -⟩ | ⟨u'', t'', hu'', ht'', hd⟩ := hbound
    · rw [hu] at he
      cases he
    · rw [hu] at hu' hu''
      rw [ht] at ht' ht''
      cases hu'
      cases ht'
      cases hu''
      cases ht''
      exact (Execute.resolveAll_eq_iff hd.bindings).mp heq
  · intro h
    refine ⟨fun p hp => written_error_unbound hb hp, fun s hs => ?_⟩
    obtain ⟨u, hu, hk⟩ := written_kept hs
    obtain ⟨e, he, -⟩ | ⟨u', t, hu', ht, hd⟩ := hbound
    · rw [hu] at he
      cases he
    · rw [hu] at hu'
      cases hu'
      exact ⟨u, t, hu, ht, hk, (Execute.resolveAll_eq_iff hd.bindings).mpr (h s u t hs hu ht)⟩

end Change

namespace Pattern

instance : (e : Element) → Decidable e.Bare
  | .text _ => isTrue trivial
  | .slot s _ => inferInstanceAs (Decidable (s.affix = .bare))

instance (p : Pattern) : Decidable p.Bare :=
  inferInstanceAs (Decidable (∀ e ∈ p.elements, e.Bare))

end Pattern

theorem Dialect.mem_all (d : Dialect) : d ∈ all := by
  cases d <;> decide

theorem presets_bare :
    ∀ d ∈ Dialect.all, ∀ op ∈ Operator.all, op ∉ [Operator.startsWith, .endsWith, .containsText] →
      ((Rules.ofDialect d).operators op).all (fun rule => decide rule.pattern.Bare) := by
  decide +kernel

theorem bareOperator_ofDialect (d : Dialect) {op : Operator}
    (h : op ∉ [Operator.startsWith, .endsWith, .containsText]) : (Rules.ofDialect d).BareOperator op := by
  intro rule hrule
  have hall := presets_bare d d.mem_all op op.mem_all h
  rw [hrule] at hall
  simpa using hall

def Node.Whole (n : Node) : Prop :=
  match n.expr with
  | .operation op _ => op ∉ [Operator.startsWith, .endsWith, .containsText]
  | .custom f _ => f.pattern.Bare
  | _ => True

instance : (n : Node) → Decidable n.Whole
  | ⟨_, .operation op _⟩ => inferInstanceAs (Decidable (op ∉ [Operator.startsWith, .endsWith, .containsText]))
  | ⟨_, .custom f _⟩ => inferInstanceAs (Decidable f.pattern.Bare)
  | ⟨_, .path _⟩ | ⟨_, .constant _⟩ | ⟨_, .param _⟩ | ⟨_, .subQuery _⟩ => isTrue trivial

theorem Node.Whole.bare {n : Node} (h : n.Whole) (d : Dialect) : n.Bare (.ofDialect d) := by
  obtain ⟨scopes, e⟩ := n
  cases e with
  | operation op args => exact bareOperator_ofDialect d h
  | custom f args => exact h
  | path p | constant v | param p | subQuery q => trivial

theorem Change.bare_ofDialect {ch : Change} {d : Dialect} (hd : ch.config.rules = .ofDialect d)
    (h : ∀ n ∈ ch.nodes, n.Whole) : ch.Bare := by
  refine ⟨?_, ?_, fun n hn => ?_⟩
  · rw [hd]
    exact bareOperator_ofDialect d (by decide)
  · rw [hd]
    exact bareOperator_ofDialect d (by decide)
  · rw [hd]
    exact (h n hn).bare d

/-- The deletion of all cats, if there is a product of the name that the query for it binds. -/
def strayCats : Change :=
  let who : Param := ⟨1, "who", .text⟩
  let product := Path.source (.ofType "Product") "product"
  .delete
    { Delete.of .standard (.source (.ofType "Cat") "cat") with
      filter := some (.operation .existsIn [.subQuery
        { Select.empty with
          joins := [.of .plain (.path product)]
          filter := some (.operation .eq [.path (product.property "name" .text), .param who])
          params := .insert .empty who (.text "x") }]) }

theorem strayCats_bare : strayCats.Bare :=
  Change.bare_ofDialect (d := .ansi) rfl (by decide +kernel)

/-- The value that the query binds is lost, and its parameter is reported as not set. -/
theorem strayCats_not_bindsInnermost : strayCats.Bare ∧ ¬ strayCats.BindsInnermost := by
  refine ⟨strayCats_bare, ?_⟩
  rintro ⟨-, h⟩
  obtain ⟨u, t, hu, ht, -, heq⟩ := h _ rfl
  cases hu
  cases ht
  cases heq

theorem bindsInnermost_iff_strayCats :
    strayCats.Bare ∧
      (strayCats.BindsInnermost ↔
        ∀ s u t, strayCats.written = .ok s → strayCats.bound.written = .ok u →
          strayCats.bound.eager.written = .ok t →
          Change.GivesInnermost strayCats.params u.bindings t.bindings) :=
  ⟨strayCats_bare, strayCats.bindsInnermost_iff strayCats_bare⟩

end QueryText
