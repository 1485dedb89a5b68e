import QueryText.Proofs.Counting.Heads

namespace QueryText

open Render Writer Render.Query

namespace Sql

inductive Head where
  | everything
  | items (es : List Expr)
  | countAll
  | countDistinct (e : Expr)

/-- The head for a projection; without one, all columns are selected. -/
def Head.ofProjection : List Expr → Head
  | [] => everything
  | e :: es => items (e :: es)

structure Clauses where
  joins : List (Join Expr)
  /-- the conditions of the filter, all of which have to hold -/
  conditions : List Expr
  groupBy : List Expr
  having : Option Expr

structure Selection where
  distinct : Bool
  head : Head
  clauses : Clauses

inductive Statement where
  | selection (s : Selection)
  /-- the number of rows of a selection that is the only source -/
  | countOf (s : Selection)

def Head.write : Head → Writer
  | everything => text "*"
  | items es => writeProjection (es.map Expr.operand)
  | countAll => text "count(*)"
  | countDistinct e => Query.countDistinct e.write

def Clauses.write (cl : Clauses) (first : Join Operand) (rest : List (Join Operand)) : Writer :=
  writeSources first rest ++ filterClause (cl.conditions.map Expr.operand) ++
    ((if cl.groupBy.isEmpty then nothing
      else clause (·.keywords.groupBy) (separated ", " (cl.groupBy.map Expr.write))) ++
    (match cl.having with
      | some e => clause (·.keywords.having) e.write
      | none => nothing))

def Selection.write (s : Selection) : Writer :=
  match s.clauses.joins.map (Join.map Expr.operand) with
  | [] => fail (.precondition .noSource)
  | first :: rest =>
    selectHead ++ when s.distinct (byRules fun r => text (r.keywords.distinct ++ " ")) ++ s.head.write ++
      clauseBreak ++ s.clauses.write first rest

def Statement.write : Statement → Writer
  | selection s => s.write
  | countOf s =>
    selectHead ++ Head.countAll.write ++ clauseBreak ++ byRules (fun r => text (r.keywords.source ++ " (")) ++
      s.write ++ text ") distinct_rows"

/-- The statement as a query to be run. -/
def Statement.written (s : Statement) (c : Config) (params : ParamMap) : Except QueryError WrittenQuery :=
  (s.write (.of c.rules .resolving c.literals [params])).bind (WrittenQuery.ofChunks c.rules .unrestricted)

end Sql

namespace Select

open Sql

variable (q : Select Expr)

def conditions : List Expr :=
  match q.joins with
  | [] => []
  | first :: rest =>
    first.condition.toList ++ (rest.filter (·.kind = .plain)).flatMap (·.condition.toList) ++
      q.filter.toList

def clauses : Clauses :=
  ⟨q.joins, q.conditions, q.groupBy, q.having⟩

/-- The statement for all rows. -/
def selection : Selection :=
  ⟨q.distinct, .ofProjection q.projection, q.clauses⟩

/-- The statement for their number. -/
def countStatement : Statement :=
  match q.distinct, q.projection with
  | false, _ => .selection ⟨false, .countAll, q.clauses⟩
  | true, [e] => .selection ⟨false, .countDistinct e, q.clauses⟩
  | true, _ => .countOf q.selection

variable {q}

theorem map_operand_conditions {first : Join Expr} {rest : List (Join Expr)}
    (h : q.joins = first :: rest) :
    q.conditions.map Expr.operand =
      sourceConditions (first.map Expr.operand) (rest.map (Join.map Expr.operand)) ++
        (q.filter.map Expr.operand).toList := by
  have hplain : (rest.filter (·.kind = .plain)).map (Join.map Expr.operand) =
      (rest.map (Join.map Expr.operand)).filter (·.kind = .plain) := by
    rw [List.filter_map]
    rfl
  have htoList : ∀ o : Option Expr, (o.map Expr.operand).toList = o.toList.map Expr.operand := by
    intro o
    cases o <;> rfl
  simp only [conditions, h, sourceConditions, ← hplain, List.map_append, List.map_flatMap,
    List.flatMap_map, Join.map, htoList]

theorem body_eq_clauses {first : Join Expr} {rest : List (Join Expr)} (h : q.joins = first :: rest)
    {form : Form} (hf : form ≠ .rows) :
    body form (q.map Expr.operand) (first.map Expr.operand) (rest.map (Join.map Expr.operand)) =
      q.clauses.write (first.map Expr.operand) (rest.map (Join.map Expr.operand)) := by
  have hform : (form == .rows) = false := by simpa using hf
  have hwhen : ∀ w : Writer, when (form == .rows) w = nothing := by
    intro w
    rw [hform]
    rfl
  have hgroups : (q.groupBy.map Expr.operand).map (·.write) = q.groupBy.map Expr.write := by
    rw [List.map_map]
    rfl
  have htail : writeTail (q.map Expr.operand) form =
      (if q.groupBy.isEmpty then nothing
        else clause (·.keywords.groupBy) (separated ", " (q.groupBy.map Expr.write))) ++
      (match q.having with
        | some e => clause (·.keywords.having) e.write
        | none => nothing) := by
    simp only [writeTail, hwhen, append_nothing, Select.map, List.isEmpty_map, hgroups]
    cases q.having <;> rfl
  simp only [body, Clauses.write, clauses, map_operand_conditions h, htail]
  rfl

variable {c : Context}

theorem rowsHead_sql (hg : c.rules.grammar = .sql) (o : Select Operand) (first : Join Operand) :
    rowsHead o first c =
      (selectHead ++ when o.distinct (byRules fun r => text (r.keywords.distinct ++ " ")) ++
        (if o.projection.isEmpty then text "*" else writeProjection o.projection) ++ clauseBreak) c := by
  simp only [rowsHead, byRules, hg]
  cases o.distinct <;> cases o.projection <;> simp [when, nothing, text, byRules, append_apply]

theorem write_ofProjection (es : List Expr) :
    (Head.ofProjection es).write =
      if (es.map Expr.operand).isEmpty then text "*" else writeProjection (es.map Expr.operand) := by
  cases es <;> rfl

theorem write_of_joins {s : Selection} {first : Join Expr} {rest : List (Join Expr)}
    (h : s.clauses.joins = first :: rest) :
    s.write =
      selectHead ++ when s.distinct (byRules fun r => text (r.keywords.distinct ++ " ")) ++
        s.head.write ++ clauseBreak ++
        s.clauses.write (first.map Expr.operand) (rest.map (Join.map Expr.operand)) := by
  simp only [Selection.write, h, List.map_cons]

theorem write_of_no_joins {s : Selection} (h : s.clauses.joins = []) :
    s.write = fail (.precondition .noSource) := by
  simp only [Selection.write, h, List.map_nil]

theorem write_unordered (hg : c.rules.grammar = .sql) :
    Query.write .rows (q.unordered.map Expr.operand) c = q.selection.write c := by
  have hne : c.rules.grammar ≠ .jdoql := by simp [hg]
  rw [write_rows hne]
  cases hj : q.joins with
  | nil =>
    rw [write_of_no_joins hj]
    simp only [writeStatement, unordered, Select.map, hj, List.map_nil]
  | cons first rest =>
    have hbody : body .rows (q.unordered.map Expr.operand) (first.map Expr.operand)
          (rest.map (Join.map Expr.operand)) =
        q.clauses.write (first.map Expr.operand) (rest.map (Join.map Expr.operand)) :=
      body_unordered.trans (body_eq_clauses hj (by decide))
    rw [writeStatement_rows (joins_map (q := q.unordered) hj) (by decide), hbody,
      rowsHead_sql hg, write_of_joins hj, append_apply _ (Clauses.write _ _ _)]
    simp only [selection, write_ofProjection]
    rfl

theorem write_count_selection (hg : c.rules.grammar = .sql)
    (hq : q.distinct = false ∨ q.projection.length = 1) {s : Selection} (hd : s.distinct = false)
    (hs : s.clauses = q.clauses)
    (hhead : ∀ first rest, q.joins = first :: rest →
      writeCount (q.map Expr.operand) (first.map Expr.operand) c = s.head.write c) :
    Query.write .count (q.map Expr.operand) c = s.write c := by
  have hne : c.rules.grammar ≠ .jdoql := by simp [hg]
  have hwrite : Query.write .count (q.map Expr.operand) c =
      writeStatement .count (q.map Expr.operand) c := by
    rw [write_relational hne]
    obtain hq | hq := hq <;> simp [writeRelational, byRules, Select.map, hq]
  rw [hwrite]
  cases hj : q.joins with
  | nil =>
    have hj' : s.clauses.joins = [] := by rw [hs]; exact hj
    rw [write_of_no_joins hj']
    simp only [writeStatement, Select.map, hj, List.map_nil]
  | cons first rest =>
    have hj' : s.clauses.joins = first :: rest := by rw [hs]; exact hj
    rw [writeStatement_count (joins_map hj), hhead first rest hj, write_of_joins hj',
      body_eq_clauses hj (by decide), hs, hd]
    simp [append_apply, when, nothing]

theorem write_countOf (hc : c.rules.Derived) (hg : c.rules.grammar = .sql) (hd : q.distinct = true)
    (hl : q.projection.length ≠ 1) :
    Query.write .count (q.map Expr.operand) c = (Statement.countOf q.selection).write c := by
  obtain ⟨hselect, -, hsource⟩ := hc.keywords_sql hg
  have hne : c.rules.grammar ≠ .jdoql := by simp [hg]
  cases hj : q.joins with
  | nil =>
    rw [write_relational hne]
    simp [writeRelational, byRules, Select.map, hj, writeStatement, Statement.write, append_apply,
      write_of_no_joins (s := q.selection) hj, selectHead, Head.write, clauseBreak, text, fail]
  | cons first rest =>
    have hl' : (q.map Expr.operand).projection.length ≠ 1 := by
      simpa only [Select.map, List.length_map] using hl
    have hinner : Query.write .rows (q.map Expr.operand).unordered c = q.selection.write c :=
      write_unordered hg
    rw [write_count_distinct hc hg (joins_map hj) hd hl', hinner]
    simp [Statement.write, append_apply, joined_assoc, selectHead, Head.write, clauseBreak, byRules, text,
      framed, Chunk.ofTexts, hselect, hsource]

theorem write_countStatement (hc : c.rules.Derived) (hg : c.rules.grammar = .sql) :
    Query.write .count (q.map Expr.operand) c = q.countStatement.write c := by
  obtain ⟨-, hcount, -⟩ := hc.keywords_sql hg
  unfold countStatement
  split
  · next hd =>
    refine write_count_selection hg (.inl hd) rfl rfl fun first rest _ => ?_
    simp [writeCount, Select.map, hd, byRules, hcount, Head.write, text]
  · next hd hp =>
    refine write_count_selection hg (.inr (by simp [hp])) rfl rfl fun first rest _ => ?_
    simp only [writeCount, Select.map, hd, hp, List.map_cons, List.map_nil, ↓reduceIte]
    rfl
  · next hd hmany =>
    refine write_countOf hc hg hd fun hl => ?_
    obtain ⟨e, he⟩ := List.length_eq_one_iff.mp hl
    exact hmany e he

theorem written_unordered_eq {c : Config} (hg : c.rules.grammar = .sql) (q : Select Expr) :
    q.unordered.written c = (Statement.selection q.selection).written c q.params := by
  rw [written, q.unordered.writtenAs_eq, write_unordered hg]
  rfl

theorem writtenCount_eq {c : Config} (hc : c.rules.Derived) (hg : c.rules.grammar = .sql)
    (q : Select Expr) : q.writtenCount c = q.countStatement.written c q.params := by
  rw [writtenCount, q.writtenAs_eq, write_countStatement hc hg]
  rfl

end Select

end QueryText
