import QueryText.Proofs.Visiting.Clauses

namespace QueryText.Render

open Render.Query

namespace Session

/-- Outside of any other query, the source of an object query becomes the candidate. -/
def entering (p : Path) (s : Session) : Session :=
  if 0 < s.depth then s else { s with candidate := some p }

theorem entering_eq (p : Path) (s : Session) :
    ∃ k, (0 < s.depth → k = s.candidate) ∧ s.entering p = { s with candidate := k } := by
  by_cases h : 0 < s.depth
  · exact ⟨s.candidate, fun _ => rfl, if_pos h⟩
  · exact ⟨some p, fun hd => absurd hd h, if_neg h⟩

theorem context_entering (p : Path) (s : Session) :
    (s.entering p).context = if s.context.nested then s.context else { s.context with candidate := some p } := by
  have hnested : s.context.nested = decide (0 < s.depth) := rfl
  unfold entering
  by_cases h : 0 < s.depth
  · rw [hnested, if_pos h, if_pos (decide_eq_true h)]
  · rw [hnested, if_neg h, if_neg (by simpa using h)]
    rfl

end Session

namespace Part

/-- The variable that a later join declares, and the condition that ties it to its collection. -/
def declared (j : Join Part) : Except Construct (Path × List Part) :=
  match j.target.expr with
  | .operation .asAlias _ =>
    match j.target.args with
    | collection :: p :: _ =>
      match p.expr with
      | .path v => .ok (v, [operation .isIn [path v, collection]])
      | _ => .error .aliasWithoutVariable
    | _ => .error .aliasWithoutVariable
  | .path p => if j.kind = .plain && p.isRoot then .ok (p, []) else .error (.undeclaringJoin j.kind)
  | _ => .error (.undeclaringJoin j.kind)

def declarations : List (Join Part) → Except Construct (List Path × List Part)
  | [] => .ok ([], [])
  | j :: js =>
    match declared j with
    | .error k => .error k
    | .ok (v, ties) =>
      match declarations js with
      | .error k => .error k
      | .ok (vs, conditions) => .ok (v :: vs, ties ++ j.condition.toList ++ conditions)

end Part

namespace Visitor

def objectCount (q : Select Part) : Visitor :=
  if q.distinct then countProjected (push "this") q.projection
  else byRules fun r => push (r.keywords.countAll.getD "count(this)")

/-- The first line of an object query, which may be left out when it would be bare. -/
def objectRowsHead (q : Select Part) : Visitor :=
  if q.projection.isEmpty && !q.distinct && !q.unique then pure ()
  else do
    byRules fun r => do
      push r.keywords.select
      when q.unique (emit (match r.keywords.unique with
        | some t => .text (" " ++ t)
        | none => .nothing))
      when q.distinct (push (" " ++ r.keywords.distinct))
    when (!q.projection.isEmpty) do
      push " "
      projection q.projection
    newline

def objectHead (form : Form) (q : Select Part) : Visitor :=
  match form with
  | .count => do
    selectHead
    objectCount q
    newline
  | .rows | .countedRows => objectRowsHead q

def candidateName (name : String) : Visitor := do
  let s ← get
  when (0 < s.depth) (push (" " ++ name))

def laterSources (q : Select Part) (first : Join Part) (rest : List (Join Part)) : Visitor :=
  match Part.declarations rest with
  | .error k => unsupported k
  | .ok (vs, conditions) => do
    filterClause (first.condition.toList ++ conditions ++ q.filter.toList)
    emit (variablesClause vs)

def objectClauses (form : Form) (q : Select Part) (name : String) (e : Entity) (first : Join Part)
    (rest : List (Join Part)) : Visitor := do
  objectHead form q
  byRules fun r => push (r.keywords.source ++ " " ++ e.typeName)
  candidateName name
  laterSources q first rest
  tail q form

/-- An object query ranges over its first source, which outside of any other query becomes the candidate. -/
def object (form : Form) (q : Select Part) : Visitor :=
  match q.joins with
  | [] => fail (.precondition .noSource)
  | first :: rest =>
    match first.target.expr, first.target.source? with
    | .path p, some (name, e) => do
      modify (Session.entering p)
      objectClauses form q name e first rest
    | _, _ => unsupported .candidate

def query (form : Form) (q : Select Part) : Visitor :=
  byRules fun r =>
    match r.grammar with
    | .jdoql => object form q
    | _ => relational form q

end Visitor

namespace Part

/-- Both declare the same, tied by conditions that belong together, or both fail alike. -/
inductive CarriesDeclarations {α : Type} :
    Except Construct (α × List Part) → Except Construct (α × List Operand) → Prop where
  | ok (x : α) {ps : List Part} {os : List Operand} (h : List.Forall₂ Carries ps os) :
      CarriesDeclarations (.ok (x, ps)) (.ok (x, os))
  | error (k : Construct) : CarriesDeclarations (.error k) (.error k)

variable {i : Join Part} {j : Join Operand} {is : List (Join Part)} {js : List (Join Operand)}

theorem declared_carries (h : CarriesJoin i j) : CarriesDeclarations (declared i) (Query.declared j) := by
  have hargs := h.target.args
  unfold declared Query.declared
  rw [h.target.expr, h.kind]
  cases j.target.expr with
  | path p =>
    by_cases hp : j.kind = .plain && p.isRoot
    · simp only [hp]
      exact .ok p .nil
    · simp only [hp]
      exact .error _
  | constant v | param p | custom f args | subQuery q => exact .error _
  | operation op args =>
    cases op
    case asAlias =>
      generalize i.target.args = ps, j.target.args = os at hargs
      match ps, os, hargs with
      | [], [], _ => exact .error _
      | [_], [_], _ => exact .error _
      | collection :: p :: _, collection' :: o :: _, .cons hc (.cons hpo _) =>
        simp only [hpo.expr]
        cases o.expr with
        | path v => exact .ok v (.cons (.operation .isIn (.cons (.path v) (.cons hc .nil))) .nil)
        | _ => exact .error _
    all_goals exact .error _

theorem declarations_carries (h : List.Forall₂ CarriesJoin is js) :
    CarriesDeclarations (declarations is) (Query.declarations js) := by
  induction h with
  | nil => exact .ok [] .nil
  | @cons i j is js hij _ ih =>
    have hd := declared_carries hij
    unfold declarations Query.declarations
    generalize declared i = x, Query.declared j = y at hd
    cases hd with
    | error k => exact .error k
    | ok v hties =>
      generalize declarations is = xs, Query.declarations js = ys at ih
      cases ih with
      | error k => exact .error k
      | ok vs hs =>
        exact .ok (v :: vs) (List.rel_append (List.rel_append hties (toList_carries hij.condition)) hs)

end Part

namespace Visitor.CarriesOut

variable {i : Join Part} {j : Join Operand} {is : List (Join Part)} {js : List (Join Operand)} {q : Select Part}
  {q' : Select Operand}

theorem objectCount (h : Part.CarriesSelect q q') : CarriesOut (objectCount q) (Query.objectCount q') := by
  unfold Visitor.objectCount Query.objectCount
  rw [h.distinct]
  split
  · exact countProjected (push "this") h.projection
  · exact word _

theorem objectRowsHead (h : Part.CarriesSelect q q') : CarriesOut (objectRowsHead q) (Query.objectHead q') := by
  unfold Visitor.objectRowsHead Query.objectHead
  rw [isEmpty_eq h.projection, h.distinct, h.unique]
  split
  · exact nothing
  · simp only [append_assoc]
    refine andThen (byRules fun r => ?_)
      ((when _ ((push " ").andThen (projection h.projection))).andThen newline)
    exact (push _).andThen ((when _ (emit _)).andThen (when _ (push _)))

theorem objectHead (form : Form) (h : Part.CarriesSelect q q') :
    CarriesOut (objectHead form q)
      (match form with
      | .count => Query.selectHead ++ Query.objectCount q' ++ .clauseBreak
      | _ => Query.objectHead q') := by
  cases form with
  | count =>
    rw [append_assoc]
    exact selectHead.andThen ((objectCount h).andThen newline)
  | rows | countedRows => exact objectRowsHead h

theorem candidateName (name : String) :
    CarriesOut (candidateName name) fun c => Writer.when c.nested (.text (" " ++ name)) c :=
  reading fun s => when _ (push _) s

theorem laterSources (h : Part.CarriesSelect q q') (hij : Part.CarriesJoin i j)
    (hs : List.Forall₂ Part.CarriesJoin is js) :
    CarriesOut (laterSources q i is)
      (match Query.declarations js with
      | .error k => .unsupported k
      | .ok (vs, conditions) =>
        Query.filterClause (j.condition.toList ++ conditions ++ q'.filter.toList) ++ variablesClause vs) := by
  have hd := Part.declarations_carries hs
  unfold Visitor.laterSources
  generalize Part.declarations is = x, Query.declarations js = y at hd
  cases hd with
  | error k => exact unsupported k
  | ok vs hconditions =>
    refine (filterClause ?_).andThen (emit _)
    exact List.rel_append (List.rel_append (Part.toList_carries hij.condition) hconditions)
      (Part.toList_carries h.filter)

theorem objectClauses (form : Form) (h : Part.CarriesSelect q q') (name : String) (e : Entity)
    (hij : Part.CarriesJoin i j) (hs : List.Forall₂ Part.CarriesJoin is js) :
    CarriesOut (objectClauses form q name e i is) (Query.objectClauses form q' name e j js) := by
  intro s
  have hall := (objectHead form h).andThen ((word fun r => r.keywords.source ++ " " ++ e.typeName).andThen
    ((candidateName name).andThen ((laterSources h hij hs).andThen (tail h form)))) s
  simp only [append_apply, ← joined_assoc] at hall
  simp only [Query.objectClauses, append_apply]
  exact hall

end Visitor.CarriesOut

/-- From every session the visitor adds what the writer writes there. Outside of any query, it may leave another
candidate. -/
def Visitor.CarriesOutQuery (v : Visitor) (w : Writer) : Prop :=
  ∀ s : Session, ∃ p, (0 < s.depth → p = s.candidate) ∧
    ({ s with candidate := p } : Session).Reaches (w s.context) (v s)

theorem Visitor.CarriesOut.asQuery {v : Visitor} {w : Writer} (h : CarriesOut v w) : CarriesOutQuery v w :=
  fun s => ⟨s.candidate, fun _ => rfl, h s⟩

namespace Visitor.CarriesOutQuery

variable {q : Select Part} {q' : Select Operand} {v : Visitor} {w : Writer}

theorem object (form : Form) (h : Part.CarriesSelect q q') :
    CarriesOutQuery (object form q) (writeObject form q') := by
  have hjoins := h.joins
  unfold Visitor.object writeObject
  match q.joins, q'.joins, hjoins with
  | [], [], _ => exact (CarriesOut.fail _).asQuery
  | i :: is, j :: js, .cons hij hs =>
    simp only [Part.source?_eq hij.target, hij.target.expr]
    cases j.target.expr with
    | path p =>
      cases source? j.target with
      | none => exact (CarriesOut.unsupported _).asQuery
      | some x =>
        intro s
        have hclauses := CarriesOut.objectClauses form h x.1 x.2 hij hs (s.entering p)
        rw [Session.context_entering] at hclauses
        obtain ⟨k, hk, hentering⟩ := Session.entering_eq p s
        refine ⟨k, hk, ?_⟩
        rw [← hentering]
        exact hclauses
    | _ => exact (CarriesOut.unsupported _).asQuery

theorem query (form : Form) (h : Part.CarriesSelect q q') :
    CarriesOutQuery (query form q) (Query.write form q') := by
  intro s
  have hrules : s.context.rules = s.rules := rfl
  change ∃ p, _ ∧ Session.Reaches _ _ ((match s.rules.grammar with
    | .jdoql => Visitor.object form q
    | _ => Visitor.relational form q : Visitor) s)
  simp only [Query.write, Writer.byRules, hrules]
  cases s.rules.grammar with
  | jdoql => exact object form h s
  | sql | jpql => exact (CarriesOut.relational form h).asQuery s

theorem inside (params : ParamMap) (h : CarriesOutQuery v w) :
    CarriesOut (inside params v) fun c => w (c.inside params) := by
  intro s
  obtain ⟨p, hp, hin⟩ := h { s with scopes := params :: s.scopes, candidate := none, depth := s.depth + 1 }
  have hcontext : Session.context { s with scopes := params :: s.scopes, candidate := none, depth := s.depth + 1 } =
      s.context.inside params := by
    simp [Session.context, Context.inside]
  rw [hcontext, hp (Nat.succ_pos _)] at hin
  exact hin.restored (fun _ => rfl)

end Visitor.CarriesOutQuery

end QueryText.Render
