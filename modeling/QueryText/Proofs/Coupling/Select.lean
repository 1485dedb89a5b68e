import QueryText.Proofs.Coupling.Operand

namespace QueryText.Render.Coupling

open Operand Render.Query

variable (K : Coupling)

structure CoupledJoin (i j : Join Operand) : Prop where
  kind : i.kind = j.kind
  target : K.CoupledOperand i.target j.target
  condition : Option.Rel K.CoupledOperand i.condition j.condition
  flags : i.flags = j.flags

structure CoupledOrder (o o' : Order Operand) : Prop where
  target : K.CoupledOperand o.target o'.target
  direction : o.direction = o'.direction
  nulls : o.nulls = o'.nulls

/-- Queries whose operands are coupled one by one and that agree in all else; their values may differ. -/
structure CoupledSelect (q q' : Select Operand) : Prop where
  joins : List.Forall₂ K.CoupledJoin q.joins q'.joins
  filter : Option.Rel K.CoupledOperand q.filter q'.filter
  having : Option.Rel K.CoupledOperand q.having q'.having
  groupBy : List.Forall₂ K.CoupledOperand q.groupBy q'.groupBy
  orderBy : List.Forall₂ K.CoupledOrder q.orderBy q'.orderBy
  projection : List.Forall₂ K.CoupledOperand q.projection q'.projection
  distinct : q.distinct = q'.distinct
  unique : q.unique = q'.unique
  window : q.window = q'.window

structure WritesQueries : Prop where
  and : K.wildcards ∨ K.BareOperator .and
  isIn : K.wildcards ∨ K.BareOperator .isIn

variable {K} {a b : Operand} {as bs : List Operand} {i j : Join Operand} {is js : List (Join Operand)}
  {q q' : Select Operand}

theorem option_cases {o o' : Option Operand} (h : Option.Rel K.CoupledOperand o o') :
    (o = none ∧ o' = none) ∨ ∃ a b, o = some a ∧ o' = some b ∧ K.CoupledOperand a b := by
  cases h with
  | none => exact .inl ⟨rfl, rfl⟩
  | some h => exact .inr ⟨_, _, rfl, rfl, h⟩

theorem toList_coupled {o o' : Option Operand} (h : Option.Rel K.CoupledOperand o o') :
    List.Forall₂ K.CoupledOperand o.toList o'.toList := by
  cases h with
  | none => exact .nil
  | some h => exact .cons h .nil

theorem conjunction_coupled (hq : K.WritesQueries) (h : List.Forall₂ K.CoupledOperand as bs) :
    Option.Rel K.CoupledOperand (conjunction? as) (conjunction? bs) := by
  cases h with
  | nil => exact .none
  | @cons a b as bs ha hs =>
    refine .some ?_
    induction hs generalizing a b with
    | nil => exact ha
    | cons hb _ ih => exact ih (operation_coupled .and hq.and (.cons ha (.cons hb .nil)))

theorem clause_coupled (keyword : Rules → String) (hk : ∀ r b, keyword (r.withFlattening b) = keyword r)
    {v w : Writer} (h : K.Coupled v w) :
    K.Coupled (clause keyword v) (clause keyword w) :=
  .append (.append .clauseBreak (.rulesText _ fun r b => by rw [hk])) h

theorem filterClause_coupled (hq : K.WritesQueries) (h : List.Forall₂ K.CoupledOperand as bs) :
    K.Coupled (filterClause as) (filterClause bs) := by
  unfold filterClause
  obtain ⟨ha, hb⟩ | ⟨a, b, ha, hb, hab⟩ := option_cases (conjunction_coupled hq h)
  · rw [ha, hb]
    exact .nothing
  · rw [ha, hb]
    exact clause_coupled _ (fun _ _ => rfl) hab.write

theorem writeSource_coupled (name : String) (e : Entity) :
    K.Coupled (writeSource name e) (writeSource name e) := by
  intro c d hc
  obtain ⟨flattens, hr⟩ := K.rules_alike hc
  have hobject := Coupled.append (Coupled.text (K := K) (e.simpleName ++ " ")) (.identifier name)
  simp only [writeSource, hr, Rules.grammar_withFlattening]
  cases d.rules.grammar with
  | sql =>
    cases e.schema with
    | none =>
      exact Coupled.append (.append (.append .nothing (.identifier e.table)) (.text " "))
        (.identifier name) c d hc
    | some s =>
      have hschema := Coupled.append (Coupled.identifier (K := K) s) (.text ".")
      exact Coupled.append (.append (.append hschema (.identifier e.table)) (.text " "))
        (.identifier name) c d hc
  | jpql | jdoql => exact hobject c d hc

theorem source?_eq (h : K.CoupledOperand a b) : source? a = source? b := by
  have hh := h.head
  unfold source?
  cases ha : a.expr <;> cases hb : b.expr <;> simp_all [Expr.head]

theorem flags_coupled (flags : List JoinFlag) (f : JoinFlag → String) :
    K.Coupled (.all (flags.map fun g => .text (f g))) (.all (flags.map fun g => .text (f g))) :=
  .all (forall₂_map_self fun _ _ => .text _)

theorem writeTarget_coupled (h : K.CoupledJoin i j) : K.Coupled (writeTarget i) (writeTarget j) := by
  unfold writeTarget
  rw [h.flags, source?_eq h.target]
  refine .append (flags_coupled _ _) ?_
  split
  · exact writeSource_coupled _ _
  · exact h.target.write

theorem writeAfterTarget_coupled (h : K.CoupledJoin i j) :
    K.Coupled (writeAfterTarget i) (writeAfterTarget j) := by
  unfold writeAfterTarget
  rw [h.flags]
  exact flags_coupled _ _

theorem writeProjected_coupled (h : K.CoupledOperand a b) :
    K.Coupled (writeProjected a) (writeProjected b) := by
  intro c d hc
  obtain ⟨flattens, hr⟩ := K.rules_alike hc
  simp only [writeProjected, hr, Rules.grammar_withFlattening, source?_eq h]
  split
  · exact Coupled.append (.identifier _) (.text ".*") c d hc
  · exact h.write c d hc

theorem forall₂_map {α : Type} {R : α → α → Prop} {f : α → Writer} {xs ys : List α}
    (hf : ∀ x y, R x y → K.Coupled (f x) (f y)) (h : List.Forall₂ R xs ys) :
    List.Forall₂ K.Coupled (xs.map f) (ys.map f) := by
  induction h with
  | nil => exact .nil
  | cons h _ ih => exact .cons (hf _ _ h) ih

theorem writeProjection_coupled (h : List.Forall₂ K.CoupledOperand as bs) :
    K.Coupled (writeProjection as) (writeProjection bs) :=
  .separated ", " (forall₂_map (fun _ _ h => writeProjected_coupled h) h)

theorem joinKeyword_error {r : Rules} {k : JoinKind} {e : QueryError} (h : r.joinKeyword k = .error e)
    (p : Param) : e ≠ .parameterNotSet p := by
  unfold Rules.joinKeyword at h
  rintro rfl
  cases k <;> cases hr : r.keywords.rightJoin <;> cases hf : r.keywords.fullJoin <;>
    simp [hr, hf, Rules.unsupported] at h

theorem joinKeyword_coupled (k : JoinKind) :
    K.Coupled
      (.lift fun r => (r.joinKeyword k).map fun k =>
        match k with
        | some k => Writer.text (k ++ " ")
        | none => Writer.nothing)
      (.lift fun r => (r.joinKeyword k).map fun k =>
        match k with
        | some k => Writer.text (k ++ " ")
        | none => Writer.nothing) := by
  refine .lift _ (fun _ _ => rfl) (fun r w hw => ?_) fun r e he => ?_
  · obtain ⟨keyword, -, rfl⟩ := Except.map_eq_ok_iff.mp hw
    cases keyword with
    | none => exact .nothing
    | some k => exact .text _
  · exact joinKeyword_error (Except.map_eq_error_iff.mp he)

theorem writeLaterJoin_coupled (h : K.CoupledJoin i j) :
    K.Coupled (writeLaterJoin i) (writeLaterJoin j) := by
  have htarget := writeTarget_coupled h
  have hafter := writeAfterTarget_coupled h
  unfold writeLaterJoin
  rw [h.kind]
  split
  · exact .append (.append (.text ", ") htarget) hafter
  · refine .append (.append (.append (.append .clauseBreak (joinKeyword_coupled j.kind)) htarget) ?_)
      hafter
    obtain ⟨hi, hj⟩ | ⟨a, b, hi, hj, hab⟩ := option_cases h.condition
    · rw [hi, hj]
      exact .nothing
    · rw [hi, hj]
      exact .append (.rulesText _ fun _ _ => rfl) hab.write

theorem sourceConditions_coupled (h : K.CoupledJoin i j) (hs : List.Forall₂ K.CoupledJoin is js) :
    List.Forall₂ K.CoupledOperand (sourceConditions i is) (sourceConditions j js) := by
  refine List.rel_append (toList_coupled h.condition) ?_
  induction hs with
  | nil => exact .nil
  | @cons i j _ _ h _ ih =>
    rw [List.filter_cons, List.filter_cons, h.kind]
    split
    · exact List.rel_append (toList_coupled h.condition) ih
    · exact ih

theorem writeSources_coupled (h : K.CoupledJoin i j) (hs : List.Forall₂ K.CoupledJoin is js) :
    K.Coupled (writeSources i is) (writeSources j js) :=
  .append (.append (.append (.rulesText _ fun _ _ => rfl) (writeTarget_coupled h))
    (writeAfterTarget_coupled h)) (.all (forall₂_map (fun _ _ h => writeLaterJoin_coupled h) hs))

theorem call_coupled (name : String) {v w : Writer} (h : K.Coupled v w) :
    K.Coupled (call name v) (call name w) :=
  .append (.append (.text _) h) (.text _)

theorem countDistinct_coupled {v w : Writer} (h : K.Coupled v w) :
    K.Coupled (countDistinct v) (countDistinct w) :=
  .byRules (fun _ _ => rfl) fun _ => call_coupled _ (.append (.text _) h)

theorem writeCount_coupled (h : K.CoupledSelect q q') (hj : K.CoupledJoin i j) :
    K.Coupled (writeCount q i) (writeCount q' j) := by
  have hp := h.projection
  unfold writeCount
  rw [h.distinct]
  split
  · cases hq : q.projection with
    | nil =>
      rw [hq] at hp
      cases hq' : q'.projection with
      | nil => exact countDistinct_coupled hj.target.write
      | cons b bs => simp [hq'] at hp
    | cons a as =>
      rw [hq] at hp
      cases hq' : q'.projection with
      | nil => simp [hq'] at hp
      | cons b bs =>
        rw [hq'] at hp
        cases hp with
        | cons hab hs =>
          cases hs with
          | nil => exact countDistinct_coupled hab.write
          | cons _ _ => exact .unsupported _
  · refine .byRules (fun _ _ => rfl) fun r => ?_
    split
    · exact .text _
    · exact call_coupled _ hj.target.write

theorem selectHead_coupled : K.Coupled selectHead selectHead :=
  .rulesText _ fun _ _ => rfl

theorem nullsWord_coupled (keyword : Keywords → Option String) (k : Construct) :
    K.Coupled (writeOrder.nullsWord keyword k) (writeOrder.nullsWord keyword k) := by
  refine .byRules (fun _ _ => rfl) fun r => ?_
  split
  · exact .text _
  · exact .unsupported _

theorem writeOrder_coupled {o o' : Order Operand} (h : K.CoupledOrder o o') :
    K.Coupled (writeOrder o) (writeOrder o') := by
  unfold writeOrder
  rw [h.direction, h.nulls]
  refine .append (.append (.append h.target.write (.text " ")) (.rulesText _ fun _ _ => rfl)) ?_
  split
  · exact .nothing
  · exact nullsWord_coupled _ _
  · exact nullsWord_coupled _ _

theorem line_coupled (b : Bool) (s : String) : K.Coupled (line b s) (line b s) :=
  .when b (.append .clauseBreak (.text s))

theorem optionLine_coupled (n : Option UInt64) (before after : String) :
    K.Coupled (optionLine n before after) (optionLine n before after) := by
  cases n with
  | none => exact .nothing
  | some n => exact line_coupled _ _

theorem writeWindow_coupled (w : Window) : K.Coupled (writeWindow w) (writeWindow w) := by
  refine .byRules (fun _ _ => rfl) fun r => ?_
  split
  · exact .append (optionLine_coupled _ _ _) (optionLine_coupled _ _ _)
  · exact .append (optionLine_coupled _ _ _) (optionLine_coupled _ _ _)
  · exact line_coupled _ _
  · exact .nothing

theorem isEmpty_eq {α : Type} {R : α → α → Prop} {xs ys : List α} (h : List.Forall₂ R xs ys) :
    xs.isEmpty = ys.isEmpty := by
  cases h <;> rfl

theorem writeTail_coupled (h : K.CoupledSelect q q') (form : Form) :
    K.Coupled (writeTail q form) (writeTail q' form) := by
  have hgroup : K.Coupled (.separated ", " (q.groupBy.map (·.write)))
      (.separated ", " (q'.groupBy.map (·.write))) :=
    .separated ", " (forall₂_map (fun _ _ h => h.write) h.groupBy)
  have horder : K.Coupled (.separated ", " (q.orderBy.map writeOrder))
      (.separated ", " (q'.orderBy.map writeOrder)) :=
    .separated ", " (forall₂_map (fun _ _ h => writeOrder_coupled h) h.orderBy)
  unfold writeTail
  rw [isEmpty_eq h.groupBy, isEmpty_eq h.orderBy, h.window]
  refine .append (.append ?_ ?_) (.when _ (.append ?_ (writeWindow_coupled _)))
  · split
    · exact .nothing
    · exact clause_coupled _ (fun _ _ => rfl) hgroup
  · obtain ⟨hi, hj⟩ | ⟨a, b, hi, hj, hab⟩ := option_cases h.having
    · rw [hi, hj]
      exact .nothing
    · rw [hi, hj]
      exact clause_coupled _ (fun _ _ => rfl) hab.write
  · split
    · exact .nothing
    · exact clause_coupled _ (fun _ _ => rfl) horder

theorem rowsHead_coupled (h : K.CoupledSelect q q') (hj : K.CoupledJoin i j) :
    K.Coupled (rowsHead q i) (rowsHead q' j) := by
  refine .byRules (fun _ _ => rfl) fun r => ?_
  rw [isEmpty_eq h.projection, h.distinct]
  split
  · exact .nothing
  · refine .append (.append (.append selectHead_coupled (.when _ (.text _))) ?_) .clauseBreak
    split
    · split
      · exact .text _
      · exact hj.target.write
    · exact writeProjection_coupled h.projection

theorem writeStatement_coupled (hq : K.WritesQueries) (form : Form) (h : K.CoupledSelect q q') :
    K.Coupled (writeStatement form q) (writeStatement form q') := by
  have hjoins := h.joins
  unfold writeStatement
  cases hi : q.joins with
  | nil =>
    cases hj : q'.joins with
    | nil => exact .fail _
    | cons j js => simp [hi, hj] at hjoins
  | cons i is =>
    cases hj : q'.joins with
    | nil => simp [hi, hj] at hjoins
    | cons j js =>
      rw [hi, hj] at hjoins
      cases hjoins with
      | cons hij hs =>
        have hconditions := List.rel_append (sourceConditions_coupled hij hs) (toList_coupled h.filter)
        refine .append (.append (.append ?_ (writeSources_coupled hij hs))
          (filterClause_coupled hq hconditions)) (writeTail_coupled h form)
        cases form with
        | count => exact .append (.append selectHead_coupled (writeCount_coupled h hij)) .clauseBreak
        | rows | countedRows => exact rowsHead_coupled h hij

theorem writeRelational_coupled (hq : K.WritesQueries) (form : Form) (h : K.CoupledSelect q q') :
    K.Coupled (writeRelational form q) (writeRelational form q') := by
  refine .byRules (fun _ _ => rfl) fun r => ?_
  rw [h.distinct, h.projection.length_eq, isEmpty_eq h.joins]
  split
  · exact .append (.append (.append (.append (.append selectHead_coupled (.rulesText _ fun _ _ => rfl))
      .clauseBreak) (.rulesText _ fun _ _ => rfl)) (writeStatement_coupled hq .countedRows h)) (.text _)
  · exact writeStatement_coupled hq form h

/-- Both sides declare the same, tied by coupled conditions, or both fail alike. -/
inductive CoupledDeclarations {α : Type} :
    Except Construct (α × List Operand) → Except Construct (α × List Operand) → Prop where
  | ok (v : α) {as bs : List Operand} (h : List.Forall₂ K.CoupledOperand as bs) :
      CoupledDeclarations (.ok (v, as)) (.ok (v, bs))
  | error (k : Construct) : CoupledDeclarations (.error k) (.error k)

def tied : List Operand → Except Construct (Path × List Operand)
  | collection :: o :: _ =>
    match o.expr with
    | .path v => .ok (v, [operation .isIn [Operand.path v, collection]])
    | _ => .error .aliasWithoutVariable
  | _ => .error .aliasWithoutVariable

theorem declared_eq (j : Join Operand) :
    declared j =
      match j.target.expr.head with
      | .operation .asAlias => tied j.target.args
      | .path p => if j.kind = .plain && p.isRoot then .ok (p, []) else .error (.undeclaringJoin j.kind)
      | _ => .error (.undeclaringJoin j.kind) := by
  unfold declared
  cases h : j.target.expr with
  | operation op args => cases op <;> rfl
  | path p => rfl
  | constant v | param p | custom f args | subQuery q => rfl

theorem tied_coupled (hq : K.WritesQueries) (h : List.Forall₂ K.CoupledOperand as bs) :
    CoupledDeclarations (K := K) (tied as) (tied bs) := by
  match as, bs, h with
  | [], [], _ => exact .error _
  | [_], [_], _ => exact .error _
  | a :: o :: _, b :: o' :: _, .cons hab (.cons ho _) =>
    have hp := ho.path?_eq
    cases ho : o.expr <;> cases ho' : o'.expr <;> simp only [ho, ho', Expr.path?, reduceCtorEq] at hp
    case path.path v w =>
      obtain rfl := Option.some.inj hp
      simp only [tied, ho, ho']
      exact .ok v (.cons (operation_coupled .isIn hq.isIn (.cons (path_coupled v) (.cons hab .nil))) .nil)
    all_goals
      simp only [tied, ho, ho']
      exact .error _

theorem declared_coupled (hq : K.WritesQueries) (h : K.CoupledJoin i j) :
    CoupledDeclarations (K := K) (declared i) (declared j) := by
  rw [declared_eq, declared_eq, h.kind, h.target.head]
  split
  · exact tied_coupled hq h.target.args
  · split
    · exact .ok _ .nil
    · exact .error _
  · exact .error _

theorem declarations_coupled (hq : K.WritesQueries) (h : List.Forall₂ K.CoupledJoin is js) :
    CoupledDeclarations (K := K) (declarations is) (declarations js) := by
  induction h with
  | nil => exact .ok [] .nil
  | @cons i j is js hij _ ih =>
    have hd := declared_coupled hq hij
    unfold declarations
    generalize declared i = x, declared j = y at hd
    cases hd with
    | error k => exact .error k
    | ok v hties =>
      generalize declarations is = xs, declarations js = ys at ih
      cases ih with
      | error k => exact .error k
      | ok vs hs =>
        exact .ok (v :: vs) (List.rel_append (List.rel_append hties (toList_coupled hij.condition)) hs)

theorem variablesClause_coupled (vs : List Path) :
    K.Coupled (variablesClause vs) (variablesClause vs) := by
  unfold variablesClause
  split
  · exact .nothing
  · exact clause_coupled _ (fun _ _ => rfl) (.text _)

theorem objectCount_coupled (h : K.CoupledSelect q q') :
    K.Coupled (objectCount q) (objectCount q') := by
  have hp := h.projection
  unfold objectCount
  rw [h.distinct]
  split
  · match q.projection, q'.projection, hp with
    | [], [], _ => exact countDistinct_coupled (.text "this")
    | [_], [_], .cons hab .nil => exact countDistinct_coupled hab.write
    | _ :: _ :: _, _ :: _ :: _, _ => exact .unsupported _
  · exact .rulesText _ fun _ _ => rfl

theorem objectHead_coupled (h : K.CoupledSelect q q') : K.Coupled (objectHead q) (objectHead q') := by
  have hprojection := writeProjection_coupled h.projection
  unfold objectHead
  rw [isEmpty_eq h.projection, h.distinct, h.unique]
  split
  · exact .nothing
  · refine .append (.append (.byRules (fun _ _ => rfl) fun r => .append (.append (.text _) (.when _ ?_))
      (.when _ (.text _))) (.when _ (.append (.text " ") hprojection))) .clauseBreak
    split
    · exact .text _
    · exact .nothing

theorem nestedText_coupled {c d : Context} (hc : K.contexts c d) (s : String) :
    K.Coupled (.when c.nested (.text s)) (.when d.nested (.text s)) := by
  obtain hn | hr := K.nested_cases hc
  · rw [hn]
    exact .when _ (.text s)
  · intro _ _ _
    cases c.nested <;> cases d.nested
    · exact K.renamed hr [] []
    · exact K.renamed hr [] [s]
    · exact K.renamed hr [s] []
    · exact K.renamed hr [s] [s]

theorem candidate_contexts {c d : Context} (hc : K.contexts c d) (p : Path) :
    K.contexts (if c.nested then c else { c with candidate := some p })
      (if d.nested then d else { d with candidate := some p }) := by
  obtain hn | hr := K.nested_cases hc
  · cases hd : d.nested with
    | true => simpa only [hn, hd, ↓reduceIte] using hc
    | false => simpa only [hn, hd, Bool.false_eq_true, ↓reduceIte] using K.candidate hc p
  · split <;> split
    · exact hc
    · exact K.recalled hr hc c.candidate (some p)
    · exact K.recalled hr hc (some p) d.candidate
    · exact K.candidate hc p

theorem objectClauses_coupled (hq : K.WritesQueries) (form : Form) (h : K.CoupledSelect q q')
    (name : String) (e : Entity) (hij : K.CoupledJoin i j) (hs : List.Forall₂ K.CoupledJoin is js) :
    K.Coupled (objectClauses form q name e i is) (objectClauses form q' name e j js) := by
  intro c d hc
  have hd := declarations_coupled hq hs
  simp only [objectClauses]
  refine Coupled.append (.append (.append (.append ?_ (.rulesText _ fun _ _ => rfl))
    (nestedText_coupled hc _)) ?_) (writeTail_coupled h form) c d hc
  · cases form with
    | count => exact .append (.append selectHead_coupled (objectCount_coupled h)) .clauseBreak
    | rows | countedRows => exact objectHead_coupled h
  · generalize declarations is = xs, declarations js = ys at hd
    cases hd with
    | error k => exact .unsupported k
    | ok vs hconditions =>
      refine .append (filterClause_coupled hq ?_) (variablesClause_coupled vs)
      exact List.rel_append (List.rel_append (toList_coupled hij.condition) hconditions)
        (toList_coupled h.filter)

theorem writeObject_coupled (hq : K.WritesQueries) (form : Form) (h : K.CoupledSelect q q') :
    K.Coupled (writeObject form q) (writeObject form q') := by
  have hjoins := h.joins
  unfold writeObject
  match q.joins, q'.joins, hjoins with
  | [], [], _ => exact .fail _
  | i :: is, j :: js, .cons hij hs =>
    have hh := hij.target.head
    have hsource := source?_eq hij.target
    cases hi : i.target.expr <;> cases hj : j.target.expr <;>
      simp only [hi, hj, Expr.head, Expr.Head.path.injEq, reduceCtorEq] at hh
    case path.path p p' =>
      subst hh
      simp only [hi, hj, hsource]
      cases source? j.target with
      | none => exact .unsupported _
      | some x =>
        intro c d hc
        exact objectClauses_coupled hq form h x.1 x.2 hij hs _ _ (candidate_contexts hc p)
    all_goals
      simp only [hi, hj]
      exact .unsupported _

theorem write_coupled (hq : K.WritesQueries) (form : Form) (h : K.CoupledSelect q q') :
    K.Coupled (Query.write form q) (Query.write form q') := by
  refine .byRules (fun _ _ => rfl) fun r => ?_
  split
  · exact writeObject_coupled hq form h
  · exact writeRelational_coupled hq form h

end QueryText.Render.Coupling
