import QueryText.Proofs.Places.Parts

namespace QueryText

open Render

namespace Select

variable {q : Select Expr} {c : Context}

theorem ownContext_eq : ∃ candidate, q.ownContext c = { c with candidate := candidate } := by
  unfold ownContext
  split
  · split
    · exact ⟨c.candidate, rfl⟩
    · exact ⟨_, rfl⟩
  · exact ⟨c.candidate, rfl⟩

theorem rules_ownContext : (q.ownContext c).rules = c.rules := by
  obtain ⟨_, h⟩ := q.ownContext_eq (c := c)
  rw [h]

theorem ownContext_inside (params : ParamMap) : q.ownContext (c.inside params) = c.inside params := by
  unfold ownContext
  split
  · rfl
  · rfl

end Select

namespace Render.Windowing

open Operand Render.Query

variable {W : Windowing} {c : Context} {e e' : Expr} {q q' : Select Expr}

theorem write_unlimited {form : Form} (hf : form ≠ .rows) (q : Select Operand) :
    Query.write form q.unlimited c = Query.write form q c := by
  cases form with
  | rows => exact absurd rfl hf
  | count | countedRows => rfl

theorem ownContext_same (h : Select.Rel W.Same W.windows q q') : q.ownContext c = q'.ownContext c := by
  have hj := h.joins
  unfold Select.ownContext
  match q.joins, q'.joins, hj with
  | [], [], _ => rfl
  | first :: rest, first' :: rest', .cons h₁ _ =>
    cases h₁ with
    | intro _ ht _ _ =>
      cases c.rules.grammar with
      | sql | jpql => rfl
      | jdoql => simp only [Expr.path?_eq_of_head_eq ht.head_eq]

theorem failed_around (x y : Except QueryError (List Chunk)) (err : QueryError) :
    W.coupling.Around x y (.error err) (.error err) :=
  ⟨.error err, .error err, .ok [], .ok [], W.refl _, W.refl _, rfl, rfl⟩

theorem PartsOf.fails {v w : Writer} {as bs : List Expr} (h : W.PartsOf c v w as bs) (err : QueryError) :
    W.PartsOf c (.fail err) (.fail err) as bs :=
  ⟨W.refl _, h.parts.imp fun _ _ hab => ⟨hab.1, failed_around _ _ _⟩⟩

section Candidate

variable {first first' : Join Expr} {rest rest' : List (Join Expr)} (form : Form)

def candidate? : Expr → Option (Path × Entity)
  | .path p => p.rootEntity?.map (p, ·)
  | _ => none

theorem candidate?_eq_some {n : Entity} :
    candidate? e = some (p, n) ↔ e = .path p ∧ p.rootEntity? = some n := by
  cases e with
  | path r =>
    simp only [candidate?, Option.map_eq_some_iff, Prod.mk.injEq, Expr.path.injEq]
    constructor
    · rintro ⟨_, hr, rfl, rfl⟩
      exact ⟨rfl, hr⟩
    · rintro ⟨rfl, hr⟩
      exact ⟨n, hr, rfl, rfl⟩
  | _ => simp [candidate?]

theorem writeObject_nil (hq : q.joins = []) :
    writeObject form (q.map Expr.operand).unlimited = .fail (.precondition .noSource) := by
  simp [writeObject, Select.unlimited, Select.withWindow, Select.map, hq]

theorem writeObject_map (hq : q.joins = first :: rest) :
    writeObject form (q.map Expr.operand).unlimited c =
      match candidate? first.target with
      | some (p, e) =>
        objectClauses form (q.map Expr.operand).unlimited p.name e (first.map Expr.operand)
          (rest.map (Join.map Expr.operand)) (if c.nested then c else { c with candidate := some p })
      | none => Writer.unsupported .candidate c := by
  have hjoins : (q.map Expr.operand).unlimited.joins =
      first.map Expr.operand :: rest.map (Join.map Expr.operand) := Select.joins_map hq
  have htarget : (first.map Expr.operand).target = first.target.operand := rfl
  simp only [writeObject, hjoins, htarget, Expr.expr_operand, source?]
  cases first.target with
  | path p =>
    simp only [candidate?]
    cases p.rootEntity? <;> rfl
  | operation _ _ | constant _ | param _ | custom _ _ | subQuery _ => rfl

theorem candidate?_same (h : W.Same e e') : candidate? e = candidate? e' := by
  cases h <;> rfl

theorem ownContext_candidate (hg : c.rules.grammar = .jdoql) (hq : q.joins = first :: rest) {p : Path}
    {e : Entity} (hp : candidate? first.target = some (p, e)) :
    q.ownContext c = if c.nested then c else { c with candidate := some p } := by
  simp [Select.ownContext, hg, hq, (candidate?_eq_some.mp hp).1, Expr.path?]

theorem object_parts (hr : W.rules c.rules) (h : Select.Rel W.Same W.windows q q')
    (hg : c.rules.grammar = .jdoql) :
    W.PartsOf (q.ownContext c) (fun _ => writeObject form (q.map Expr.operand).unlimited c)
      (fun _ => writeObject form (q'.map Expr.operand).unlimited c) (q.objectParts form c.rules)
      (q'.objectParts form c.rules) := by
  have hj := h.joins
  match hq : q.joins, hq' : q'.joins, hj with
  | [], [], _ =>
    simp only [Select.objectParts, hq, hq', writeObject_nil form hq, writeObject_nil form hq']
    exact PartsOf.unchanged (.fail (.precondition .noSource))
  | first :: rest, first' :: rest', .cons h₁ hs =>
    have hsame : candidate? first.target = candidate? first'.target := by
      cases h₁ with
      | intro _ ht _ _ => exact candidate?_same ht
    have hown : W.rules (q.ownContext c).rules := by rwa [Select.rules_ownContext]
    have hparts (name : String) (e : Entity) := PartsOf.object hown form h hq hq' name e
    simp only [Select.rules_ownContext] at hparts
    simp only [writeObject_map form hq, writeObject_map form hq', ← hsame]
    cases hp : candidate? first.target with
    | none => exact (hparts "" (.ofType "")).fails _
    | some pe =>
      obtain ⟨p, e⟩ := pe
      have hparts := hparts p.name e
      simp only [ownContext_candidate hg hq hp] at hparts ⊢
      exact ⟨hparts.alike, hparts.parts⟩

end Candidate

theorem unlimited_parts (hr : W.rules c.rules) (form : Form) (h : Select.Rel W.Same W.windows q q') :
    W.PartsOf (q.ownContext c) (fun _ => Query.write form (q.map Expr.operand).unlimited c)
      (fun _ => Query.write form (q'.map Expr.operand).unlimited c) (q.parts form c.rules)
      (q'.parts form c.rules) := by
  cases hg : c.rules.grammar with
  | sql | jpql =>
    have hown : q.ownContext c = c := by simp [Select.ownContext, hg]
    have hparts := PartsOf.relational hr form h
    rw [hown]
    simp only [Select.parts, Query.write, Writer.byRules, hg]
    exact ⟨hparts.alike, hparts.parts⟩
  | jdoql =>
    simp only [Select.parts, Query.write, Writer.byRules, hg]
    exact object_parts form hr h hg

theorem select_parts (hr : W.rules c.rules) (form : Form) (h : Select.Rel W.Same W.windows q q') :
    W.PartsOf (q.ownContext c) (fun _ => q.write form c) (fun _ => q'.write form c)
      (q.parts form c.rules) (q'.parts form c.rules) := by
  have hparts := unlimited_parts hr form h
  by_cases hf : form = .rows
  · subst hf
    have hwindow := W.window hr h.windows
    rw [q.write_rows, q'.write_rows, q.unlimited.write_eq, q'.unlimited.write_eq]
    exact ⟨W.join hparts.alike hwindow,
      hparts.parts.imp fun _ _ hab => ⟨hab.1, hab.2.left hwindow⟩⟩
  · simp only [Select.write_eq]
    simpa only [write_unlimited hf] using hparts

theorem write_subQuery (q : Select Expr) :
    (Expr.subQuery q).write c = Writer.parenthesized (q.write .rows) (c.inside q.params) := by
  simp only [Expr.write, Expr.operand, Operand.subQuery, Couplings.params_selectOperands]
  rfl

theorem subQuery_around (hr : W.rules c.rules) (h : Select.Rel W.Same W.windows q q') {i : Nat}
    {d : Context} (hp : (Expr.subQuery q).part? c i = some (e, d)) :
    ∃ e', (Expr.subQuery q').part? c i = some (e', d) ∧ W.Same e e' ∧ d.rules = c.rules ∧
      W.coupling.Around (e.write d) (e'.write d) ((Expr.subQuery q).write c)
        ((Expr.subQuery q').write c) := by
  obtain ⟨a, ha, hd⟩ := Option.map_eq_some_iff.mp hp
  obtain ⟨rfl, rfl⟩ := Prod.mk.inj hd
  have hin : W.rules (c.inside q.params).rules := hr
  have hparts := select_parts hin .rows h
  rw [Select.ownContext_inside] at hparts
  obtain ⟨b, hb, hsame, haround⟩ := forall₂_getElem? hparts.parts ha
  refine ⟨b, ?_, hsame, rfl, ?_⟩
  · simp only [Expr.part?, ← h.params]
    exact Option.map_eq_some_iff.mpr ⟨b, hb, rfl⟩
  · rw [write_subQuery, write_subQuery, ← h.params]
    exact Coupling.Around.parenthesized haround

theorem part?_around (hr : W.rules c.rules) (h : W.Same e e') {a : Expr} {i : Nat} {d : Context}
    (hp : e.part? c i = some (a, d)) :
    ∃ a', e'.part? c i = some (a', d) ∧ W.Same a a' ∧ d.rules = c.rules ∧
      W.coupling.Around (a.write d) (a'.write d) (e.write c) (e'.write c) := by
  cases h with
  | operation op h => exact operation_around hr h op hp
  | custom f h => exact custom_around hr h f hp
  | subQuery h => exact subQuery_around hr h hp
  | path _ | constant _ | param _ => cases hp

/-- The spots of two runs are those of one place, which stands in both results. -/
structure Stand (W : Windowing) (r : Rules) (s s' : Spot) (x y : Except QueryError (List Chunk)) :
    Prop where
  context : s'.context = s.context
  rules : s.context.rules = r
  expr : W.Same s.expr s'.expr
  around : List.Forall₂ (Select.Rel W.Same W.windows) s.around s'.around
  stands : W.coupling.Around (s.expr.write s.context) (s'.expr.write s.context) x y

theorem spot?_stand (hr : W.rules c.rules) (h : W.Same e e') {is : List Nat} {s : Spot}
    (hs : e.spot? is c = some s) :
    ∃ s', e'.spot? is c = some s' ∧ W.Stand c.rules s s' (e.write c) (e'.write c) := by
  induction is generalizing c e e' s with
  | nil =>
    obtain rfl := Option.some.inj hs
    exact ⟨⟨e', c, []⟩, rfl, rfl, rfl, h, .nil, .refl _ _⟩
  | cons i is ih =>
    obtain ⟨⟨a, d⟩, hpart, hs⟩ := Option.bind_eq_some_iff.mp hs
    obtain ⟨t, ht, rfl⟩ := Option.map_eq_some_iff.mp hs
    obtain ⟨a', hpart', hsame, hd, haround⟩ := part?_around hr h hpart
    have hr' : W.rules d.rules := hd ▸ hr
    obtain ⟨t', ht', hstand⟩ := ih hr' hsame ht
    refine ⟨{ t' with around := t'.around ++ e'.query?.toList }, ?_, hstand.context,
      hstand.rules.trans hd, hstand.expr, List.rel_append hstand.around ?_,
      hstand.stands.trans haround⟩
    · rw [Expr.spot?, hpart', Option.bind_some]
      exact Option.map_eq_some_iff.mpr ⟨t', ht', rfl⟩
    · cases h with
      | subQuery h => exact .cons h .nil
      | _ => exact .nil

theorem select_spot?_stand (hr : W.rules c.rules) (form : Form) (h : Select.Rel W.Same W.windows q q')
    {is : List Nat} {s : Spot} (hs : q.spot? form c is = some s) :
    ∃ s', q'.spot? form c is = some s' ∧ W.Stand c.rules s s' (q.write form c) (q'.write form c) := by
  match is, hs with
  | i :: is, hs =>
    obtain ⟨a, ha, hs⟩ := Option.bind_eq_some_iff.mp hs
    obtain ⟨a', ha', hsame, haround⟩ := forall₂_getElem? (select_parts hr form h).parts ha
    have hown : W.rules (q.ownContext c).rules := by rwa [Select.rules_ownContext]
    obtain ⟨s', hs', hstand⟩ := spot?_stand hown hsame hs
    refine ⟨s', ?_, hstand.context, hstand.rules.trans Select.rules_ownContext, hstand.expr,
      hstand.around, hstand.stands.trans haround⟩
    rw [Select.spot?, ha', Option.bind_some, ← ownContext_same h, hs']

end Render.Windowing

end QueryText
