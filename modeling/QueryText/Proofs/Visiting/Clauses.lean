import QueryText.Proofs.Visiting.Operands

namespace QueryText.Render

open Render.Query

namespace Visitor

def byRules (v : Rules → Visitor) : Visitor := do
  let s ← get
  v s.rules

def when (b : Bool) (v : Visitor) : Visitor :=
  if b then v else pure ()

def newline : Visitor :=
  byRules fun r => push r.clauseBreak

def clause (keyword : Rules → String) (content : Visitor) : Visitor := do
  newline
  byRules fun r => push (keyword r ++ " ")
  content

def optional (content : Part → Visitor) : Option Part → Visitor
  | none => pure ()
  | some p => content p

end Visitor

namespace Part

def conjunction? : List Part → Option Part
  | [] => none
  | p :: ps => some (ps.foldl (fun a b => operation .and [a, b]) p)

def source? (p : Part) : Option (String × Entity) :=
  match p.expr with
  | .path p => p.rootEntity?.map fun e => (p.name, e)
  | _ => none

end Part

namespace Visitor

def filterClause (conditions : List Part) : Visitor :=
  optional (fun p => clause (·.keywords.filter) p.visit) (Part.conjunction? conditions)

def target (j : Join Part) : Visitor := do
  all (j.flags.map fun f => push f.before)
  match j.target.source? with
  | some (name, e) => emit (writeSource name e)
  | none => j.target.visit

def afterTarget (j : Join Part) : Visitor :=
  all (j.flags.map fun f => push f.after)

def projected (p : Part) : Visitor := do
  let s ← get
  match s.rules.grammar, p.source? with
  | .sql, some (name, _) =>
    emit (.identifier name)
    push ".*"
  | _, _ => p.visit

def projection (ps : List Part) : Visitor :=
  separated ", " (ps.map projected)

def joinKeyword (k : JoinKind) : Visitor :=
  byRules fun r =>
    match r.joinKeyword k with
    | .error e => fail e
    | .ok none => pure ()
    | .ok (some keyword) => push (keyword ++ " ")

def laterJoin (j : Join Part) : Visitor :=
  if j.kind = .plain then do
    push ", "
    target j
    afterTarget j
  else do
    newline
    joinKeyword j.kind
    target j
    optional (fun p => do byRules fun r => push (" " ++ r.keywords.condition ++ " "); p.visit) j.condition
    afterTarget j

/-- Conditions that are visited in the filter instead of beside their join. -/
def sourceConditions (first : Join Part) (rest : List (Join Part)) : List Part :=
  first.condition.toList ++ (rest.filter (·.kind = .plain)).flatMap (·.condition.toList)

def sources (first : Join Part) (rest : List (Join Part)) : Visitor := do
  byRules fun r => push (r.keywords.source ++ " ")
  target first
  afterTarget first
  all (rest.map laterJoin)

def call (name : String) (v : Visitor) : Visitor := do
  push (name ++ "(")
  v
  push ")"

def countDistinct (v : Visitor) : Visitor :=
  byRules fun r => call "count" do
    push (r.keywords.distinct ++ " ")
    v

/-- The number of distinct values of the one thing projected, or else of `whole`. -/
def countProjected (whole : Visitor) : List Part → Visitor
  | [] => countDistinct whole
  | [p] => countDistinct p.visit
  | _ => unsupported .multiColumnCount

def count (q : Select Part) (first : Join Part) : Visitor :=
  if q.distinct then countProjected first.target.visit q.projection
  else
    byRules fun r =>
      match r.keywords.countAll with
      | some t => push t
      | none => call "count" first.target.visit

def selectHead : Visitor :=
  byRules fun r => push (r.keywords.select ++ " ")

def order (o : Order Part) : Visitor := do
  o.target.visit
  push " "
  byRules fun r => push
    (match o.direction with
    | .ascending => r.keywords.ascending
    | .descending => r.keywords.descending)
  match o.nulls with
  | .unspecified => pure ()
  | .first => emit (writeOrder.nullsWord (·.nullsFirst) .nullsFirst)
  | .last => emit (writeOrder.nullsWord (·.nullsLast) .nullsLast)

def tail (q : Select Part) (form : Form) : Visitor := do
  when (!q.groupBy.isEmpty) (clause (·.keywords.groupBy) (separated ", " (q.groupBy.map (·.visit))))
  optional (fun p => clause (·.keywords.having) p.visit) q.having
  when (form == .rows) do
    when (!q.orderBy.isEmpty) (clause (·.keywords.orderBy) (separated ", " (q.orderBy.map order)))
    emit (writeWindow q.window)

/-- What the rows consist of: without a projection, whatever the sources have. -/
def row (g : Grammar) (q : Select Part) (first : Join Part) : Visitor :=
  if q.projection.isEmpty then
    if g = .sql then push "*" else first.target.visit
  else projection q.projection

def rowsHead (q : Select Part) (first : Join Part) : Visitor :=
  byRules fun r =>
    if q.projection.isEmpty && r.grammar != .sql && !q.distinct then pure ()
    else do
      selectHead
      when q.distinct (push (r.keywords.distinct ++ " "))
      row r.grammar q first
      newline

def head (form : Form) (q : Select Part) (first : Join Part) : Visitor :=
  match form with
  | .count => do
    selectHead
    count q first
    newline
  | .rows | .countedRows => rowsHead q first

def statement (form : Form) (q : Select Part) : Visitor :=
  match q.joins with
  | [] => fail (.precondition .noSource)
  | first :: rest => do
    head form q first
    sources first rest
    filterClause (sourceConditions first rest ++ q.filter.toList)
    tail q form

def countAround (q : Select Part) : Visitor := do
  selectHead
  byRules fun r => push (r.keywords.countAll.getD "count(*)")
  newline
  byRules fun r => push (r.keywords.source ++ " (")
  statement .countedRows q
  push ") distinct_rows"

def relational (form : Form) (q : Select Part) : Visitor :=
  byRules fun r =>
    if form = .count && r.grammar = .sql && q.distinct && q.projection.length != 1 && !q.joins.isEmpty then
      countAround q
    else statement form q

end Visitor

namespace Part

structure CarriesJoin (i : Join Part) (j : Join Operand) : Prop where
  kind : i.kind = j.kind
  target : Carries i.target j.target
  condition : Option.Rel Carries i.condition j.condition
  flags : i.flags = j.flags

structure CarriesOrder (o : Order Part) (o' : Order Operand) : Prop where
  target : Carries o.target o'.target
  direction : o.direction = o'.direction
  nulls : o.nulls = o'.nulls

/-- One by one, the parts of the one query carry the operands of the other. -/
structure CarriesSelect (q : Select Part) (q' : Select Operand) : Prop where
  joins : List.Forall₂ CarriesJoin q.joins q'.joins
  filter : Option.Rel Carries q.filter q'.filter
  having : Option.Rel Carries q.having q'.having
  groupBy : List.Forall₂ Carries q.groupBy q'.groupBy
  orderBy : List.Forall₂ CarriesOrder q.orderBy q'.orderBy
  projection : List.Forall₂ Carries q.projection q'.projection
  distinct : q.distinct = q'.distinct
  unique : q.unique = q'.unique
  window : q.window = q'.window
  params : q.params = q'.params

variable {p : Part} {o : Operand} {ps : List Part} {os : List Operand} {i : Join Part} {j : Join Operand}
  {is : List (Join Part)} {js : List (Join Operand)} {q : Select Part} {q' : Select Operand}

theorem toList_carries {p : Option Part} {o : Option Operand} (h : Option.Rel Carries p o) :
    List.Forall₂ Carries p.toList o.toList := by
  cases h with
  | none => exact .nil
  | some h => exact .cons h .nil

theorem conjunction_carries (h : List.Forall₂ Carries ps os) :
    Option.Rel Carries (conjunction? ps) (Query.conjunction? os) := by
  cases h with
  | nil => exact .none
  | @cons p o ps os hpo hs =>
    refine .some ?_
    induction hs generalizing p o with
    | nil => exact hpo
    | cons hs _ ih => exact ih (.operation .and (.cons hpo (.cons hs .nil)))

theorem source?_eq (h : Carries p o) : p.source? = Query.source? o := by
  have hexpr := h.expr
  obtain ⟨e, _, _⟩ := p
  obtain ⟨e', _, _⟩ := o
  obtain rfl : e = e' := hexpr
  rfl

theorem sourceConditions_carries (h : CarriesJoin i j) (hs : List.Forall₂ CarriesJoin is js) :
    List.Forall₂ Carries (Visitor.sourceConditions i is) (Query.sourceConditions j js) := by
  refine List.rel_append (toList_carries h.condition) ?_
  induction hs with
  | nil => exact .nil
  | @cons i j _ _ h _ ih =>
    rw [List.filter_cons, List.filter_cons, h.kind]
    split
    · exact List.rel_append (toList_carries h.condition) ih
    · exact ih

end Part

theorem isEmpty_eq {α β : Type} {R : α → β → Prop} {xs : List α} {ys : List β} (h : List.Forall₂ R xs ys) :
    xs.isEmpty = ys.isEmpty := by
  cases h <;> rfl

namespace Visitor.CarriesOut

variable {p : Part} {o : Operand} {ps : List Part} {os : List Operand} {i : Join Part} {j : Join Operand}
  {is : List (Join Part)} {js : List (Join Operand)} {q : Select Part} {q' : Select Operand}
  {v : Visitor} {w : Writer}

theorem byRules {v : Rules → Visitor} {w : Rules → Writer} (h : ∀ r, CarriesOut (v r) (w r)) :
    CarriesOut (byRules v) (.byRules w) :=
  reading fun s => h s.rules s

theorem word (f : Rules → String) : CarriesOut (Visitor.byRules fun r => .push (f r)) (.byRules fun r => .text (f r)) :=
  byRules fun r => push (f r)

theorem when (b : Bool) (h : CarriesOut v w) : CarriesOut (when b v) (.when b w) := by
  cases b with
  | false => exact nothing
  | true => exact h

theorem newline : CarriesOut newline .clauseBreak :=
  word (·.clauseBreak)

theorem clause (keyword : Rules → String) (h : CarriesOut v w) :
    CarriesOut (clause keyword v) (Query.clause keyword w) := by
  have hall := newline.andThen ((word fun r => keyword r ++ " ").andThen h)
  rwa [← append_assoc] at hall

theorem optional {p : Option Part} {o : Option Operand} {f : Part → Visitor} {g : Operand → Writer}
    (hf : ∀ p o, Part.Carries p o → CarriesOut (f p) (g o)) :
    Option.Rel Part.Carries p o →
      CarriesOut (optional f p)
        (match o with
        | some o => g o
        | none => .nothing)
  | .none => nothing
  | .some h => hf _ _ h

theorem filterClause (h : List.Forall₂ Part.Carries ps os) :
    CarriesOut (filterClause ps) (Query.filterClause os) := by
  have hc := Part.conjunction_carries h
  unfold Visitor.filterClause Query.filterClause
  generalize Part.conjunction? ps = p, Query.conjunction? os = o at hc
  cases hc with
  | none => exact nothing
  | some h => exact clause _ h.visit

theorem flags (fs : List JoinFlag) (f : JoinFlag → String) :
    CarriesOut (Visitor.all (fs.map fun g => .push (f g))) (.all (fs.map fun g => .text (f g))) :=
  all (map_self (fun _ => push _) fs)

theorem target (h : Part.CarriesJoin i j) : CarriesOut (target i) (writeTarget j) := by
  unfold Visitor.target writeTarget
  rw [h.flags, Part.source?_eq h.target]
  refine (flags _ _).andThen ?_
  cases source? j.target with
  | none => exact h.target.visit
  | some x => exact emit (writeSource x.1 x.2)

theorem afterTarget (h : Part.CarriesJoin i j) : CarriesOut (afterTarget i) (writeAfterTarget j) := by
  unfold Visitor.afterTarget writeAfterTarget
  rw [h.flags]
  exact flags _ _

theorem projected (h : Part.Carries p o) : CarriesOut (projected p) (writeProjected o) := by
  refine reading fun s => ?_
  have hgrammar : s.context.rules.grammar = s.rules.grammar := rfl
  unfold writeProjected
  rw [Part.source?_eq h, hgrammar]
  cases s.rules.grammar with
  | sql =>
    cases source? o with
    | none => exact h.visit s
    | some x => exact (emit (.identifier x.1)).andThen (push ".*") s
  | jpql | jdoql => exact h.visit s

theorem projection (h : List.Forall₂ Part.Carries ps os) :
    CarriesOut (projection ps) (writeProjection os) :=
  separated ", " (map (fun _ _ h => projected h) h)

theorem joinKeyword (k : JoinKind) :
    CarriesOut (joinKeyword k)
      (.lift fun r => (r.joinKeyword k).map fun k =>
        match k with
        | some k => .text (k ++ " ")
        | none => .nothing) := by
  refine reading fun s => ?_
  have hrules : s.context.rules = s.rules := rfl
  simp only [Writer.lift, hrules]
  cases s.rules.joinKeyword k with
  | error e => exact fail e s
  | ok keyword =>
    cases keyword with
    | none => exact nothing s
    | some _ => exact push _ s

theorem laterJoin (h : Part.CarriesJoin i j) : CarriesOut (laterJoin i) (writeLaterJoin j) := by
  have htarget := target h
  have hafter := afterTarget h
  unfold Visitor.laterJoin writeLaterJoin
  rw [h.kind]
  split
  · rw [append_assoc]
    exact (push ", ").andThen (htarget.andThen hafter)
  · have hcondition := optional (fun p o h => (word fun r => " " ++ r.keywords.condition ++ " ").andThen h.visit)
      h.condition
    rw [append_assoc, append_assoc, append_assoc]
    exact newline.andThen ((joinKeyword j.kind).andThen (htarget.andThen (hcondition.andThen hafter)))

theorem sources (h : Part.CarriesJoin i j) (hs : List.Forall₂ Part.CarriesJoin is js) :
    CarriesOut (sources i is) (writeSources j js) := by
  unfold writeSources
  rw [append_assoc, append_assoc]
  exact (word fun r => r.keywords.source ++ " ").andThen
    ((target h).andThen ((afterTarget h).andThen (all (map (fun _ _ h => laterJoin h) hs))))

theorem call (name : String) (h : CarriesOut v w) : CarriesOut (call name v) (Query.call name w) := by
  unfold Query.call
  rw [append_assoc]
  exact (push _).andThen (h.andThen (push ")"))

theorem countDistinct (h : CarriesOut v w) : CarriesOut (countDistinct v) (Query.countDistinct w) :=
  byRules fun _ => call _ ((push _).andThen h)

theorem countProjected (h : CarriesOut v w) :
    List.Forall₂ Part.Carries ps os →
      CarriesOut (countProjected v ps)
        (match os with
        | [] => Query.countDistinct w
        | [o] => Query.countDistinct o.write
        | _ => .unsupported .multiColumnCount)
  | .nil => countDistinct h
  | .cons hpo .nil => countDistinct hpo.visit
  | .cons _ (.cons _ _) => unsupported _

theorem count (h : Part.CarriesSelect q q') (hj : Part.CarriesJoin i j) :
    CarriesOut (count q i) (writeCount q' j) := by
  unfold Visitor.count writeCount
  rw [h.distinct]
  split
  · exact countProjected hj.target.visit h.projection
  · refine byRules fun r => ?_
    cases r.keywords.countAll with
    | none => exact call _ hj.target.visit
    | some t => exact push t

theorem selectHead : CarriesOut selectHead Query.selectHead :=
  word _

theorem order {o : Order Part} {o' : Order Operand} (h : Part.CarriesOrder o o') :
    CarriesOut (order o) (writeOrder o') := by
  unfold Visitor.order writeOrder
  rw [h.direction, h.nulls, append_assoc, append_assoc]
  refine h.target.visit.andThen ((push " ").andThen ((word _).andThen ?_))
  cases o'.nulls with
  | unspecified => exact nothing
  | first | last => exact emit _

theorem tail (h : Part.CarriesSelect q q') (form : Form) : CarriesOut (tail q form) (writeTail q' form) := by
  have hgroup : CarriesOut (Visitor.separated ", " (q.groupBy.map (·.visit)))
      (.separated ", " (q'.groupBy.map (·.write))) :=
    separated ", " (map (fun _ _ h => h.visit) h.groupBy)
  have horder : CarriesOut (Visitor.separated ", " (q.orderBy.map Visitor.order))
      (.separated ", " (q'.orderBy.map writeOrder)) :=
    separated ", " (map (fun _ _ h => order h) h.orderBy)
  have hhaving := optional (fun p o h => clause (·.keywords.having) h.visit) h.having
  unfold Visitor.tail writeTail
  rw [isEmpty_eq h.groupBy, isEmpty_eq h.orderBy, h.window, append_assoc]
  refine andThen ?_ (hhaving.andThen (when _ (andThen ?_ (emit _))))
  · cases q'.groupBy.isEmpty with
    | false => exact clause _ hgroup
    | true => exact nothing
  · cases q'.orderBy.isEmpty with
    | false => exact clause _ horder
    | true => exact nothing

theorem rowsHead (h : Part.CarriesSelect q q') (hj : Part.CarriesJoin i j) :
    CarriesOut (rowsHead q i) (Query.rowsHead q' j) := by
  refine byRules fun r => ?_
  rw [isEmpty_eq h.projection, h.distinct]
  split
  · exact nothing
  · rw [append_assoc, append_assoc]
    refine selectHead.andThen ((when _ (push _)).andThen (andThen ?_ newline))
    unfold Visitor.row
    rw [isEmpty_eq h.projection]
    split
    · split
      · exact push "*"
      · exact hj.target.visit
    · exact projection h.projection

theorem statement (form : Form) (h : Part.CarriesSelect q q') :
    CarriesOut (statement form q) (writeStatement form q') := by
  have hjoins := h.joins
  unfold Visitor.statement writeStatement
  match q.joins, q'.joins, hjoins with
  | [], [], _ => exact fail _
  | i :: is, j :: js, .cons hij hs =>
    have hconditions := List.rel_append (Part.sourceConditions_carries hij hs) (Part.toList_carries h.filter)
    simp only [append_assoc]
    refine andThen ?_ ((sources hij hs).andThen ((filterClause hconditions).andThen (tail h form)))
    cases form with
    | count => exact selectHead.andThen ((count h hij).andThen newline)
    | rows | countedRows => exact rowsHead h hij

theorem relational (form : Form) (h : Part.CarriesSelect q q') :
    CarriesOut (relational form q) (writeRelational form q') := by
  refine byRules fun r => ?_
  rw [h.distinct, h.projection.length_eq, isEmpty_eq h.joins]
  split
  · unfold writeCountAround
    simp only [append_assoc]
    exact selectHead.andThen ((word _).andThen (newline.andThen ((word _).andThen
      ((statement .countedRows h).andThen (push _)))))
  · exact statement form h

end Visitor.CarriesOut

end QueryText.Render
