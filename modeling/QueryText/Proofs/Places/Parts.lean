import QueryText.Proofs.Places.Around

namespace QueryText.Render.Windowing

open Operand Render.Query

variable (W : Windowing)

/-- In that context the two writers write alike, and have those expressions in what they write. -/
structure PartsOf (c : Context) (v w : Writer) (as bs : List Expr) : Prop where
  alike : W.results (v c) (w c)
  parts : List.Forall₂ (fun a b => W.Same a b ∧
    W.coupling.Around (a.write c) (b.write c) (v c) (w c)) as bs

variable {W} {c : Context} {v w v' w' : Writer} {as bs as' bs' : List Expr}

namespace PartsOf

theorem unchanged (v : Writer) : W.PartsOf c v v [] [] :=
  ⟨W.refl _, .nil⟩

theorem self (hr : W.rules c.rules) {a b : Expr} (h : W.Same a b) :
    W.PartsOf c a.operand.write b.operand.write [a] [b] :=
  ⟨(operand_coupled a h).write c c (contexts hr), .cons ⟨h, .refl _ _⟩ .nil⟩

theorem append (h : W.PartsOf c v w as bs) (h' : W.PartsOf c v' w' as' bs') :
    W.PartsOf c (v ++ v') (w ++ w') (as ++ as') (bs ++ bs') := by
  constructor
  · rw [append_apply, append_apply]
    exact W.join h.alike h'.alike
  · rw [append_apply, append_apply]
    exact List.rel_append (h.parts.imp fun _ _ hab => ⟨hab.1, hab.2.left h'.alike⟩)
      (h'.parts.imp fun _ _ hab => ⟨hab.1, .right h.alike hab.2⟩)

theorem behind (u : Writer) (h : W.PartsOf c v w as bs) : W.PartsOf c (u ++ v) (u ++ w) as bs :=
  (unchanged u).append h

theorem before (h : W.PartsOf c v w as bs) (u : Writer) : W.PartsOf c (v ++ u) (w ++ u) as bs := by
  simpa using h.append (unchanged u)

theorem byRules {f g : Rules → Writer} (h : W.PartsOf c (f c.rules) (g c.rules) as bs) :
    W.PartsOf c (.byRules f) (.byRules g) as bs :=
  ⟨h.alike, h.parts⟩

theorem clause (keyword : Rules → String) (h : W.PartsOf c v w as bs) :
    W.PartsOf c (clause keyword v) (clause keyword w) as bs :=
  h.behind _

section Rows

variable {α : Type} {R : α → α → Prop} {f : α → Writer} {parts : α → List Expr} {xs ys : List α}

theorem all (hf : ∀ x y, R x y → W.PartsOf c (f x) (f y) (parts x) (parts y))
    (h : List.Forall₂ R xs ys) :
    W.PartsOf c (.all (xs.map f)) (.all (ys.map f)) (xs.flatMap parts) (ys.flatMap parts) := by
  induction h with
  | nil => exact unchanged _
  | cons hxy _ ih => exact (hf _ _ hxy).append ih

theorem separated (s : String) (hf : ∀ x y, R x y → W.PartsOf c (f x) (f y) (parts x) (parts y))
    (h : List.Forall₂ R xs ys) :
    W.PartsOf c (.separated s (xs.map f)) (.separated s (ys.map f)) (xs.flatMap parts)
      (ys.flatMap parts) := by
  induction h with
  | nil => exact unchanged _
  | cons hxy hs ih =>
    cases hs with
    | nil => simpa [Writer.separated] using hf _ _ hxy
    | cons _ _ => exact ((hf _ _ hxy).before _).append ih

end Rows

variable {e e' : Expr} {es es' : List Expr} {j j' first first' : Join Expr}
  {js js' rest rest' : List (Join Expr)} {q q' : Select Expr}

theorem source?_eq (h : W.Same e e') : Query.source? e.operand = Query.source? e'.operand :=
  Coupling.source?_eq (operand_coupled e h)

theorem target (hr : W.rules c.rules) (h : Join.Rel W.Same j j') :
    W.PartsOf c (writeTarget (j.map Expr.operand)) (writeTarget (j'.map Expr.operand))
      (Select.targetParts j) (Select.targetParts j') := by
  cases h with
  | intro kind ht hc flags =>
    simp only [writeTarget, Select.targetParts, Expr.source?, Join.map, source?_eq ht]
    refine .behind _ ?_
    cases Query.source? (Expr.operand _) with
    | some x => exact unchanged _
    | none => exact self hr ht

theorem condition (hr : W.rules c.rules) {o o' : Option Expr} (h : Option.Rel W.Same o o') :
    W.PartsOf c
      (match o.map Expr.operand with
        | some o => Writer.byRules (fun r => .text (" " ++ r.keywords.condition ++ " ")) ++ o.write
        | none => Writer.nothing)
      (match o'.map Expr.operand with
        | some o => Writer.byRules (fun r => .text (" " ++ r.keywords.condition ++ " ")) ++ o.write
        | none => Writer.nothing) o.toList o'.toList := by
  cases h with
  | none => exact unchanged _
  | some h => exact (self hr h).behind _

theorem laterJoin (hr : W.rules c.rules) (h : Join.Rel W.Same j j') :
    W.PartsOf c (writeLaterJoin (j.map Expr.operand)) (writeLaterJoin (j'.map Expr.operand))
      (Select.laterParts j) (Select.laterParts j') := by
  have htarget := target hr h
  cases h with
  | intro kind ht hc flags =>
    unfold writeLaterJoin Select.laterParts
    by_cases hk : kind = .plain
    · simp only [Join.map, hk, ↓reduceIte, List.append_nil] at htarget ⊢
      exact (htarget.behind _).before _
    · simp only [Join.map, hk, ↓reduceIte] at htarget ⊢
      exact ((htarget.behind _).append (condition hr hc)).before _

theorem sources (hr : W.rules c.rules) (h : Join.Rel W.Same first first')
    (hs : List.Forall₂ (Join.Rel W.Same) rest rest') :
    W.PartsOf c (writeSources (first.map Expr.operand) (rest.map (Join.map Expr.operand)))
      (writeSources (first'.map Expr.operand) (rest'.map (Join.map Expr.operand)))
      (Select.targetParts first ++ rest.flatMap Select.laterParts)
      (Select.targetParts first' ++ rest'.flatMap Select.laterParts) := by
  have htarget := target hr h
  have hrest := all (fun _ _ h => laterJoin hr h) hs
  simp only [writeSources, List.map_map]
  cases h with
  | intro _ _ _ _ => exact ((htarget.behind _).before _).append hrest

theorem conjunction?_operand (es : List Expr) :
    Query.conjunction? (es.map Expr.operand) = (Expr.conjunction? es).map Expr.operand := by
  cases es with
  | nil => rfl
  | cons e es =>
    simp only [List.map_cons, Query.conjunction?, Expr.conjunction?, Option.map_some, Option.some.injEq]
    induction es generalizing e with
    | nil => rfl
    | cons e' es ih => exact ih (e.and e')

theorem conjunction?_same (h : List.Forall₂ W.Same es es') :
    Option.Rel W.Same (Expr.conjunction? es) (Expr.conjunction? es') := by
  cases h with
  | nil => exact .none
  | @cons e e' es es' h hs =>
    refine .some ?_
    induction hs generalizing e e' with
    | nil => exact h
    | cons h' _ ih => exact ih (.operation .and (.cons h (.cons h' .nil)))

theorem filter (hr : W.rules c.rules) (h : List.Forall₂ W.Same es es') :
    W.PartsOf c (filterClause (es.map Expr.operand)) (filterClause (es'.map Expr.operand))
      (Expr.conjunction? es).toList (Expr.conjunction? es').toList := by
  simp only [filterClause, conjunction?_operand]
  generalize Expr.conjunction? es = x, Expr.conjunction? es' = y, conjunction?_same h = hsame
  cases hsame with
  | none => exact unchanged _
  | some h => exact clause _ (self hr h)

theorem projected (hr : W.rules c.rules) (h : W.Same e e') :
    W.PartsOf c (writeProjected e.operand) (writeProjected e'.operand)
      (Select.projectedParts c.rules e) (Select.projectedParts c.rules e') := by
  have hself := self hr h
  have hs := source?_eq h
  refine ⟨?_, ?_⟩
  · exact Coupling.writeProjected_coupled (operand_coupled e h) c c (contexts hr)
  · simp only [Select.projectedParts, writeProjected, Expr.source?, hs]
    cases c.rules.grammar with
    | sql =>
      cases Query.source? e'.operand with
      | none => exact hself.parts
      | some x => exact .nil
    | jpql | jdoql => exact hself.parts

theorem projection (hr : W.rules c.rules) (h : List.Forall₂ W.Same es es') :
    W.PartsOf c (writeProjection (es.map Expr.operand)) (writeProjection (es'.map Expr.operand))
      (es.flatMap (Select.projectedParts c.rules)) (es'.flatMap (Select.projectedParts c.rules)) := by
  have hparts := separated ", " (fun _ _ h => projected hr h) h
  simpa only [writeProjection, List.map_map, Function.comp_def] using hparts

theorem called (name : String) (h : W.PartsOf c v w as bs) :
    W.PartsOf c (call name v) (call name w) as bs :=
  (h.behind _).before _

theorem distinctCount (h : W.PartsOf c v w as bs) :
    W.PartsOf c (countDistinct v) (countDistinct w) as bs :=
  byRules (called "count" (h.behind _))

theorem count (hr : W.rules c.rules) (h : Select.Rel W.Same W.windows q q')
    (hj : Join.Rel W.Same first first') :
    W.PartsOf c (writeCount (q.map Expr.operand) (first.map Expr.operand))
      (writeCount (q'.map Expr.operand) (first'.map Expr.operand)) (q.countParts c.rules first)
      (q'.countParts c.rules first') := by
  have hp := h.projection
  have hd := h.distinct
  cases hj with
  | intro kind ht hc flags =>
    cases hq : q.distinct with
    | true =>
      simp only [writeCount, Select.countParts, Select.map, Join.map, hq, ← hd, ↓reduceIte]
      generalize q.projection = as, q'.projection = bs at hp
      cases hp with
      | nil => exact distinctCount (self hr ht)
      | cons hab hp =>
        cases hp with
        | nil => exact distinctCount (self hr hab)
        | cons _ _ => exact unchanged _
    | false =>
      simp only [writeCount, Select.countParts, Select.map, Join.map, hq, ← hd, Bool.false_eq_true,
        ↓reduceIte]
      refine byRules ?_
      cases c.rules.keywords.countAll with
      | some s => exact unchanged _
      | none => exact called "count" (self hr ht)

theorem rowsHead (hr : W.rules c.rules) (h : Select.Rel W.Same W.windows q q')
    (hj : Join.Rel W.Same first first') :
    W.PartsOf c (rowsHead (q.map Expr.operand) (first.map Expr.operand))
      (Query.rowsHead (q'.map Expr.operand) (first'.map Expr.operand)) (q.rowsParts c.rules first)
      (q'.rowsParts c.rules first') := by
  have hp := h.projection
  have hprojection := projection hr hp
  have hd := h.distinct
  unfold Query.rowsHead
  refine byRules ?_
  simp only [Select.map, Join.map, Select.rowsParts, List.isEmpty_map]
  generalize q.projection = as, q'.projection = bs at hp hprojection
  generalize q.distinct = d at hd
  subst hd
  cases hp with
  | cons _ _ => exact (hprojection.behind _).before _
  | nil =>
    cases hj with
    | intro _ ht _ _ =>
      cases q'.distinct with
      | false => cases c.rules.grammar <;> exact unchanged _
      | true =>
        cases c.rules.grammar with
        | sql => exact unchanged _
        | jpql | jdoql => exact ((self hr ht).behind _).before _

theorem order {o o' : Order Expr} (hr : W.rules c.rules) (h : Order.Rel W.Same o o') :
    W.PartsOf c (writeOrder (o.map Expr.operand)) (writeOrder (o'.map Expr.operand)) [o.target]
      [o'.target] := by
  cases h with
  | intro ht direction nulls => exact (((self hr ht).before _).before _).before _

theorem having (hr : W.rules c.rules) {o o' : Option Expr} (h : Option.Rel W.Same o o') :
    W.PartsOf c
      (match o.map Expr.operand with
        | some o => Query.clause (·.keywords.having) o.write
        | none => Writer.nothing)
      (match o'.map Expr.operand with
        | some o => Query.clause (·.keywords.having) o.write
        | none => Writer.nothing) o.toList o'.toList := by
  cases h with
  | none => exact unchanged _
  | some h => exact clause _ (self hr h)

theorem entries {α β : Type} {R : α → α → Prop} {f : β → Writer} {g : α → β} {part : α → Expr}
    {xs ys : List α} (keyword : Rules → String)
    (hf : ∀ x y, R x y → W.PartsOf c (f (g x)) (f (g y)) [part x] [part y]) (h : List.Forall₂ R xs ys) :
    W.PartsOf c
      (if (xs.map g).isEmpty then Writer.nothing
        else Query.clause keyword (.separated ", " ((xs.map g).map f)))
      (if (ys.map g).isEmpty then Writer.nothing
        else Query.clause keyword (.separated ", " ((ys.map g).map f)))
      (xs.map part) (ys.map part) := by
  have hparts := clause keyword (separated ", " hf h)
  simp only [← List.map_eq_flatMap] at hparts
  cases h with
  | nil => exact unchanged _
  | cons _ _ => simpa [Function.comp_def] using hparts

theorem tail (hr : W.rules c.rules) (form : Form) (h : Select.Rel W.Same W.windows q q') :
    W.PartsOf c (writeTail (q.map Expr.operand).unlimited form)
      (writeTail (q'.map Expr.operand).unlimited form) (q.tailParts form) (q'.tailParts form) := by
  have hgroups := entries (·.keywords.groupBy) (fun _ _ h => self hr h) h.groupBy
  rw [List.map_id', List.map_id'] at hgroups
  have horders := entries (·.keywords.orderBy) (fun _ _ h => order hr h) h.orderBy
  have hfront := hgroups.append (having hr h.having)
  cases form with
  | rows => exact hfront.append (horders.before _)
  | count | countedRows => exact hfront.append (unchanged _)

theorem toList_same {α : Type} {R : α → α → Prop} {o o' : Option α} (h : Option.Rel R o o') :
    List.Forall₂ R o.toList o'.toList := by
  cases h with
  | none => exact .nil
  | some h => exact .cons h .nil

theorem condition_same (h : Join.Rel W.Same j j') :
    j.kind = j'.kind ∧ List.Forall₂ W.Same j.condition.toList j'.condition.toList := by
  cases h with
  | intro _ _ hc _ => exact ⟨rfl, toList_same hc⟩

theorem conditions_same (h : Select.Rel W.Same W.windows q q') :
    List.Forall₂ W.Same q.conditions q'.conditions := by
  have hj := h.joins
  unfold Select.conditions
  match q.joins, q'.joins, hj with
  | [], [], _ => exact .nil
  | first :: rest, first' :: rest', .cons h₁ hs =>
    refine List.rel_append (List.rel_append (condition_same h₁).2 ?_) (toList_same h.filter)
    induction hs with
    | nil => exact .nil
    | cons hij _ ih =>
      rw [List.filter_cons, List.filter_cons, (condition_same hij).1]
      split
      · exact List.rel_append (condition_same hij).2 ih
      · exact ih

def writeHead (form : Form) (q : Select Operand) (first : Join Operand) : Writer :=
  match form with
  | .count => selectHead ++ writeCount q first ++ .clauseBreak
  | _ => Query.rowsHead q first

theorem writeStatement_map (form : Form) (hq : q.joins = first :: rest) :
    writeStatement form (q.map Expr.operand).unlimited =
      writeHead form (q.map Expr.operand).unlimited (first.map Expr.operand) ++
        writeSources (first.map Expr.operand) (rest.map (Join.map Expr.operand)) ++
        filterClause (q.conditions.map Expr.operand) ++ writeTail (q.map Expr.operand).unlimited form := by
  have hjoins : (q.map Expr.operand).unlimited.joins =
      first.map Expr.operand :: rest.map (Join.map Expr.operand) := Select.joins_map hq
  simp only [writeStatement, hjoins, Select.map_operand_conditions hq]
  rfl

theorem head (hr : W.rules c.rules) (form : Form) (h : Select.Rel W.Same W.windows q q')
    (hj : Join.Rel W.Same first first') :
    W.PartsOf c (writeHead form (q.map Expr.operand).unlimited (first.map Expr.operand))
      (writeHead form (q'.map Expr.operand).unlimited (first'.map Expr.operand))
      (if form = .count then q.countParts c.rules first else q.rowsParts c.rules first)
      (if form = .count then q'.countParts c.rules first' else q'.rowsParts c.rules first') := by
  cases form with
  | count => exact ((count hr h hj).behind _).before _
  | rows | countedRows => exact rowsHead hr h hj

theorem statement (hr : W.rules c.rules) (form : Form) (h : Select.Rel W.Same W.windows q q') :
    W.PartsOf c (writeStatement form (q.map Expr.operand).unlimited)
      (writeStatement form (q'.map Expr.operand).unlimited) (q.statementParts form c.rules)
      (q'.statementParts form c.rules) := by
  have hj := h.joins
  cases hq : q.joins with
  | nil =>
    cases hq' : q'.joins with
    | nil =>
      simp only [Select.statementParts, hq, hq']
      have hnone (q : Select Expr) (h : q.joins = []) :
          writeStatement form (q.map Expr.operand).unlimited = .fail (.precondition .noSource) := by
        simp [writeStatement, Select.unlimited, Select.withWindow, Select.map, h]
      rw [hnone q hq, hnone q' hq']
      exact unchanged _
    | cons j js => simp [hq, hq'] at hj
  | cons first rest =>
    cases hq' : q'.joins with
    | nil => simp [hq, hq'] at hj
    | cons first' rest' =>
      rw [hq, hq'] at hj
      cases hj with
      | cons h₁ hs =>
        simp only [Select.statementParts, hq, hq']
        rw [writeStatement_map form hq, writeStatement_map form hq']
        exact (((head hr form h h₁).append (sources hr h₁ hs)).append
          (filter hr (conditions_same h))).append (tail hr form h)

theorem countsAround_eq (form : Form) (r : Rules) (h : Select.Rel W.Same W.windows q q') :
    q.countsAround form r = q'.countsAround form r := by
  unfold Select.countsAround
  rw [h.distinct, h.projection.length_eq, Coupling.isEmpty_eq h.joins]

theorem writeRelational_map (form : Form) (q : Select Expr) :
    writeRelational form (q.map Expr.operand).unlimited c =
      if q.countsAround form c.rules then writeCountAround (q.map Expr.operand).unlimited c
      else writeStatement form (q.map Expr.operand).unlimited c := by
  have hcount : (decide (form = .count) && decide (c.rules.grammar = .sql) &&
      (q.map Expr.operand).unlimited.distinct && (q.map Expr.operand).unlimited.projection.length != 1 &&
      !(q.map Expr.operand).unlimited.joins.isEmpty) = q.countsAround form c.rules := by
    simp [Select.countsAround, Select.unlimited, Select.withWindow, Select.map]
  simp only [writeRelational, Writer.byRules, hcount]
  split <;> rfl

theorem relational (hr : W.rules c.rules) (form : Form) (h : Select.Rel W.Same W.windows q q') :
    W.PartsOf c (writeRelational form (q.map Expr.operand).unlimited)
      (writeRelational form (q'.map Expr.operand).unlimited) (q.relationalParts form c.rules)
      (q'.relationalParts form c.rules) := by
  have hstatement := statement hr form h
  have haround : W.PartsOf c (writeCountAround (q.map Expr.operand).unlimited)
      (writeCountAround (q'.map Expr.operand).unlimited) (q.statementParts .countedRows c.rules)
      (q'.statementParts .countedRows c.rules) := ((statement hr .countedRows h).behind _).before _
  have hcount := countsAround_eq form c.rules h
  cases hq : q.countsAround form c.rules with
  | true =>
    have hq' := hcount ▸ hq
    simp only [Select.relationalParts, hq, hq', ↓reduceIte]
    exact ⟨by simpa only [writeRelational_map, hq, hq', ↓reduceIte] using haround.alike,
      by simpa only [writeRelational_map, hq, hq', ↓reduceIte] using haround.parts⟩
  | false =>
    have hq' := hcount ▸ hq
    simp only [Select.relationalParts, hq, hq', Bool.false_eq_true, ↓reduceIte]
    exact ⟨by simpa only [writeRelational_map, hq, hq', Bool.false_eq_true, ↓reduceIte] using hstatement.alike,
      by simpa only [writeRelational_map, hq, hq', Bool.false_eq_true, ↓reduceIte] using hstatement.parts⟩

theorem objectHead (hr : W.rules c.rules) (h : Select.Rel W.Same W.windows q q') :
    W.PartsOf c (objectHead (q.map Expr.operand)) (Query.objectHead (q'.map Expr.operand))
      (q.projection.flatMap (Select.projectedParts c.rules))
      (q'.projection.flatMap (Select.projectedParts c.rules)) := by
  have hp := h.projection
  have hprojection := projection hr hp
  have hd := h.distinct
  have hu := h.unique
  obtain ⟨joins, current, fil, hav, groups, orders, as, distinct, unique, window, params⟩ := q
  obtain ⟨joins', current', fil', hav', groups', orders', bs, distinct', unique', window', params'⟩ := q'
  obtain rfl : distinct = distinct' := hd
  obtain rfl : unique = unique' := hu
  change List.Forall₂ _ as bs at hp
  unfold Query.objectHead
  cases hp with
  | nil => exact unchanged _
  | cons _ _ => exact ((hprojection.behind _).behind _).before _

theorem objectCount (hr : W.rules c.rules) (h : Select.Rel W.Same W.windows q q') :
    W.PartsOf c (objectCount (q.map Expr.operand)) (Query.objectCount (q'.map Expr.operand))
      (q.objectHeadParts .count c.rules) (q'.objectHeadParts .count c.rules) := by
  have hp := h.projection
  have hd := h.distinct
  cases hq : q.distinct with
  | true =>
    simp only [Query.objectCount, Select.objectHeadParts, Select.map, hq, ← hd, ↓reduceIte]
    generalize q.projection = as, q'.projection = bs at hp
    cases hp with
    | nil => exact unchanged _
    | cons hab hp =>
      cases hp with
      | nil => exact distinctCount (self hr hab)
      | cons _ _ => exact unchanged _
  | false =>
    simp only [Query.objectCount, Select.objectHeadParts, Select.map, hq, ← hd, Bool.false_eq_true,
      ↓reduceIte]
    exact unchanged _

theorem declared_map (j : Join Expr) :
    Query.declared (j.map Expr.operand) =
      (Select.declared j).map fun x => (x.1, x.2.map Expr.operand) := by
  obtain ⟨kind, t, cond, flags⟩ := j
  cases t with
  | path p =>
    change (if (decide (kind = .plain) && p.isRoot) = true then Except.ok (p, [])
      else .error (Construct.undeclaringJoin kind)) = _
    by_cases h : (decide (kind = .plain) && p.isRoot) = true <;> simp [Select.declared, h, Except.map]
  | operation op args =>
    cases op with
    | asAlias =>
      match args with
      | [] | [_] => rfl
      | collection :: v :: _ => cases v <;> rfl
    | _ => rfl
  | constant v | param p | custom f args | subQuery q => rfl

theorem toList_map {α β : Type} (f : α → β) (o : Option α) : (o.map f).toList = o.toList.map f := by
  cases o <;> rfl

theorem declarations_map (js : List (Join Expr)) :
    Query.declarations (js.map (Join.map Expr.operand)) =
      (Select.declarations js).map fun x => (x.1, x.2.map Expr.operand) := by
  induction js with
  | nil => rfl
  | cons j js ih =>
    simp only [List.map_cons, Query.declarations, Select.declarations, declared_map, ih]
    cases Select.declared j with
    | error k => rfl
    | ok x =>
      cases Select.declarations js with
      | error k => rfl
      | ok y => simp only [Except.map, Join.map, List.map_append, toList_map]

/-- Both joins declare the same variable with conditions of the same kind, or both declare none. -/
inductive Declare {α : Type} (R : Expr → Expr → Prop) :
    Except Construct (α × List Expr) → Except Construct (α × List Expr) → Prop where
  | error (k : Construct) : Declare R (.error k) (.error k)
  | ok (v : α) {es es' : List Expr} (h : List.Forall₂ R es es') : Declare R (.ok (v, es)) (.ok (v, es'))

theorem declared_same (h : Join.Rel W.Same j j') :
    Declare W.Same (Select.declared j) (Select.declared j') := by
  cases h with
  | intro kind ht hc flags =>
    cases ht with
    | path p =>
      simp only [Select.declared]
      generalize (decide (kind = .plain) && p.isRoot) = declares
      cases declares with
      | false => exact .error _
      | true => exact .ok p .nil
    | operation op hargs =>
      cases op with
      | asAlias =>
        cases hargs with
        | nil => exact .error _
        | cons hcollection hrest =>
          cases hrest with
          | nil => exact .error _
          | cons hv _ =>
            cases hv with
            | path v => exact .ok v (.cons (.operation .isIn (.cons (.path v) (.cons hcollection .nil))) .nil)
            | _ => exact .error _
      | _ => exact .error _
    | _ => exact .error _

theorem declarations_same (h : List.Forall₂ (Join.Rel W.Same) js js') :
    Declare W.Same (Select.declarations js) (Select.declarations js') := by
  induction h with
  | nil => exact .ok [] .nil
  | @cons j j' js js' hj _ ih =>
    have hd := declared_same hj
    simp only [Select.declarations]
    generalize Select.declared j = x, Select.declared j' = y at hd
    generalize Select.declarations js = xs, Select.declarations js' = ys at ih
    cases hd with
    | error k => exact .error k
    | ok v hties =>
      cases ih with
      | error k => exact .error k
      | ok vs hconditions =>
        exact .ok _ (List.rel_append (List.rel_append hties (condition_same hj).2) hconditions)

def writeObjectHead (form : Form) (q : Select Operand) : Writer :=
  match form with
  | .count => selectHead ++ Query.objectCount q ++ .clauseBreak
  | _ => Query.objectHead q

theorem objectFront (hr : W.rules c.rules) (form : Form) (h : Select.Rel W.Same W.windows q q') :
    W.PartsOf c (writeObjectHead form (q.map Expr.operand)) (writeObjectHead form (q'.map Expr.operand))
      (q.objectHeadParts form c.rules) (q'.objectHeadParts form c.rules) := by
  cases form with
  | count => exact ((objectCount hr h).behind _).before _
  | rows | countedRows => exact objectHead hr h

def writeDeclared (first : Join Operand) (rest : List (Join Operand)) (filter : Option Operand) : Writer :=
  match Query.declarations rest with
  | .error k => .unsupported k
  | .ok (vs, conditions) =>
    filterClause (first.condition.toList ++ conditions ++ filter.toList) ++ variablesClause vs

theorem writeDeclared_map (first : Join Expr) (rest : List (Join Expr)) (o : Option Expr) :
    writeDeclared (first.map Expr.operand) (rest.map (Join.map Expr.operand)) (o.map Expr.operand) =
      match Select.declarations rest with
      | .error k => .unsupported k
      | .ok (vs, conditions) =>
        filterClause ((first.condition.toList ++ conditions ++ o.toList).map Expr.operand) ++
          variablesClause vs := by
  simp only [writeDeclared, declarations_map]
  cases Select.declarations rest with
  | error k => rfl
  | ok x => simp only [Except.map, Join.map, toList_map, List.map_append]

theorem conditioned (hr : W.rules c.rules) (hj : Join.Rel W.Same first first')
    (hs : List.Forall₂ (Join.Rel W.Same) rest rest') {o o' : Option Expr} (ho : Option.Rel W.Same o o') :
    W.PartsOf c
      (writeDeclared (first.map Expr.operand) (rest.map (Join.map Expr.operand)) (o.map Expr.operand))
      (writeDeclared (first'.map Expr.operand) (rest'.map (Join.map Expr.operand)) (o'.map Expr.operand))
      (match Select.declarations rest with
        | .error _ => []
        | .ok (_, conditions) =>
          (Expr.conjunction? (first.condition.toList ++ conditions ++ o.toList)).toList)
      (match Select.declarations rest' with
        | .error _ => []
        | .ok (_, conditions) =>
          (Expr.conjunction? (first'.condition.toList ++ conditions ++ o'.toList)).toList) := by
  rw [writeDeclared_map, writeDeclared_map]
  generalize Select.declarations rest = x, Select.declarations rest' = y, declarations_same hs = hxy
  cases hxy with
  | error k => exact unchanged _
  | ok vs hconditions =>
    exact (filter hr (List.rel_append (List.rel_append (condition_same hj).2 hconditions)
      (toList_same ho))).before _

theorem objectClauses_map (form : Form) (q : Select Expr) (name : String) (e : Entity) :
    objectClauses form (q.map Expr.operand).unlimited name e (first.map Expr.operand)
        (rest.map (Join.map Expr.operand)) c =
      (writeObjectHead form (q.map Expr.operand) ++
        .byRules (fun r => .text (r.keywords.source ++ " " ++ e.typeName)) ++
        .when c.nested (.text (" " ++ name)) ++
        writeDeclared (first.map Expr.operand) (rest.map (Join.map Expr.operand))
          (q.filter.map Expr.operand) ++
        writeTail (q.map Expr.operand).unlimited form) c := by
  cases form <;> rfl

theorem object (hr : W.rules c.rules) (form : Form) (h : Select.Rel W.Same W.windows q q')
    (hq : q.joins = first :: rest) (hq' : q'.joins = first' :: rest') (name : String) (e : Entity) :
    W.PartsOf c
      (objectClauses form (q.map Expr.operand).unlimited name e (first.map Expr.operand)
        (rest.map (Join.map Expr.operand)))
      (objectClauses form (q'.map Expr.operand).unlimited name e (first'.map Expr.operand)
        (rest'.map (Join.map Expr.operand)))
      (q.objectParts form c.rules) (q'.objectParts form c.rules) := by
  have hj := h.joins
  rw [hq, hq'] at hj
  cases hj with
  | cons h₁ hs =>
    have hparts := ((((objectFront hr form h).before
      (.byRules fun r => .text (r.keywords.source ++ " " ++ e.typeName))).before
        (.when c.nested (.text (" " ++ name)))).append (conditioned hr h₁ hs h.filter)).append
          (tail hr form h)
    simp only [Select.objectParts, hq, hq']
    refine ⟨?_, ?_⟩
    · simp only [objectClauses_map]
      exact hparts.alike
    · simp only [objectClauses_map]
      exact hparts.parts

end PartsOf

end QueryText.Render.Windowing
