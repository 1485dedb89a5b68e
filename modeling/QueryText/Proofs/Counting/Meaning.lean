import Mathlib.Data.Finset.Card
import QueryText.Proofs.Counting.Selection

namespace QueryText

def Operator.isAggregate : Operator → Bool
  | count | countDistinct | sum | avg | min | max => true
  | _ => false

namespace Expr

mutual

/-- The expression is one over many rows. What a sub-query aggregates is its own affair. -/
def aggregates (fragment : Fragment → Bool) : Expr → Bool
  | operation op args => op.isAggregate || anyAggregates fragment args
  | custom f args => fragment f || anyAggregates fragment args
  | path _ | constant _ | param _ | subQuery _ => false

def anyAggregates (fragment : Fragment → Bool) : List Expr → Bool
  | [] => false
  | e :: es => e.aggregates fragment || anyAggregates fragment es

end

def isSource : Expr → Bool
  | path p => p.rootEntity?.isSome
  | _ => false

end Expr

namespace Sql

/-- The contents of the tables, and what expressions come to. Nothing is assumed of them. -/
structure Database where
  /-- a row of all sources side by side -/
  Row : Type
  Cell : Type
  [cells : DecidableEq Cell]
  null : Cell
  number : Nat → Cell
  combined : List (Join Expr) → List Row
  /-- the value over a group of rows; over a group of one, it is that of the row -/
  value : Expr → List Row → Cell
  holds : Cell → Bool
  /-- the columns of one source -/
  source : Expr → List Row → List Cell
  /-- the columns of all sources -/
  everything : List Row → List Cell
  /-- fragments that compute one value out of many rows -/
  aggregates : Fragment → Bool
  /-- a cell as it is handed over to the program -/
  read : Cell → Value

attribute [instance] Database.cells

namespace Database

variable (db : Database)

def filtered (cl : Clauses) : List db.Row :=
  (db.combined cl.joins).filter fun r => cl.conditions.all fun e => db.holds (db.value e [r])

/-- Rows with the same keys, one group for each combination of keys that there is. -/
def grouped (keys : List Expr) (rows : List db.Row) : List (List db.Row) :=
  let key := fun r => keys.map fun e => db.value e [r]
  (rows.map key).dedup.map fun k => rows.filter fun r => key r = k

def isAggregate : Head → Bool
  | .everything => false
  | .items es => Expr.anyAggregates db.aggregates es
  | .countAll | .countDistinct _ => true

def groups (head : Head) (cl : Clauses) : List (List db.Row) :=
  let rows := db.filtered cl
  let groups :=
    if !cl.groupBy.isEmpty then db.grouped cl.groupBy rows
    else if cl.having.isSome || db.isAggregate head then [rows]
    else rows.map fun r => [r]
  groups.filter fun g => cl.having.all fun e => db.holds (db.value e g)

def item (g : List db.Row) (e : Expr) : List db.Cell :=
  if e.isSource then db.source e g else [db.value e g]

/-- The values other than null, each of them once. -/
def distinctValues (e : Expr) (g : List db.Row) : List db.Cell :=
  ((g.map fun r => db.value e [r]).filter (· ≠ db.null)).dedup

def output : Head → List db.Row → List db.Cell
  | .everything, g => db.everything g
  | .items es, g => es.flatMap (db.item g)
  | .countAll, g => [db.number g.length]
  | .countDistinct e, g => [db.number (db.distinctValues e g).length]

/-- The rows of the result; DISTINCT leaves one of those that are equal. -/
def rows (s : Selection) : List (List db.Cell) :=
  let rows := (db.groups s.head s.clauses).map (db.output s.head)
  if s.distinct then rows.dedup else rows

def answer : Statement → List (List db.Cell)
  | .selection s => db.rows s
  | .countOf s => [[db.number (db.rows s).length]]

structure Ungrouped (q : Select Expr) : Prop where
  groupBy : q.groupBy = []
  having : q.having = none
  projection : Expr.anyAggregates db.aggregates q.projection = false

variable {db} {q : Select Expr} {e : Expr}

theorem groups_of_row (h : db.Ungrouped q) {head : Head} (hh : db.isAggregate head = false) :
    db.groups head q.clauses = (db.filtered q.clauses).map fun r => [r] := by
  simp [groups, Select.clauses, h.groupBy, h.having, hh]

theorem groups_of_all (h : db.Ungrouped q) (head : Head) (hh : db.isAggregate head = true) :
    db.groups head q.clauses = [db.filtered q.clauses] := by
  simp [groups, Select.clauses, h.groupBy, h.having, hh]

theorem isAggregate_ofProjection (h : db.Ungrouped q) :
    db.isAggregate (.ofProjection q.projection) = false := by
  have hp := h.projection
  cases hq : q.projection with
  | nil => rfl
  | cons e es => rwa [hq] at hp

theorem groups_selection (h : db.Ungrouped q) :
    db.groups q.selection.head q.selection.clauses = (db.filtered q.clauses).map fun r => [r] :=
  groups_of_row h (isAggregate_ofProjection h)

theorem length_rows_selection (h : db.Ungrouped q) (hd : q.distinct = false) :
    (db.rows q.selection).length = (db.filtered q.clauses).length := by
  have hs : q.selection.distinct = false := hd
  simp [rows, hs, groups_selection h]

theorem rows_selection_column (h : db.Ungrouped q) (hd : q.distinct = true) (hp : q.projection = [e])
    (he : e.isSource = false) :
    db.rows q.selection = ((db.filtered q.clauses).map fun r => [db.value e [r]]).dedup := by
  have hs : q.selection.distinct = true := hd
  have hhead : q.selection.head = .items [e] := by
    simp only [Select.selection, hp]
    rfl
  have houtput : ∀ r, db.output (.items [e]) [r] = [db.value e [r]] := by
    intro r
    simp [output, item, he]
  have hrows : (db.groups q.selection.head q.selection.clauses).map (db.output q.selection.head) =
      (db.filtered q.clauses).map fun r => [db.value e [r]] := by
    rw [groups_selection h, hhead, List.map_map]
    exact List.map_congr_left fun r _ => houtput r
  simp only [rows, hs, hrows, ↓reduceIte]

theorem answer_countAll (h : db.Ungrouped q) :
    db.answer (.selection ⟨false, .countAll, q.clauses⟩) =
      [[db.number (db.filtered q.clauses).length]] := by
  simp [answer, rows, groups_of_all h .countAll rfl, output]

theorem answer_countDistinct (h : db.Ungrouped q) (e : Expr) :
    db.answer (.selection ⟨false, .countDistinct e, q.clauses⟩) =
      [[db.number (db.distinctValues e (db.filtered q.clauses)).length]] := by
  simp [answer, rows, groups_of_all h (.countDistinct e) rfl, output]

/-- The number that a query for the number of rows asks for. -/
def counted (db : Database) (q : Select Expr) : Nat :=
  match q.distinct, q.projection with
  | true, [e] => (db.distinctValues e (db.filtered q.clauses)).length
  | _, _ => (db.rows q.selection).length

theorem counted_rows (h : q.distinct = false ∨ q.projection.length ≠ 1) :
    db.counted q = (db.rows q.selection).length := by
  unfold counted
  split
  · next e hd hp =>
    obtain h | h := h
    · rw [hd] at h
      cases h
    · exact absurd (congrArg List.length hp) h
  · rfl

theorem counted_values (hd : q.distinct = true) (hp : q.projection = [e]) :
    db.counted q = (db.distinctValues e (db.filtered q.clauses)).length := by
  simp only [counted, hd, hp]

/-- Rows are counted one by one, or around the query for them. -/
def Countable (db : Database) (q : Select Expr) : Prop :=
  q.distinct = true ∧ q.projection.length ≠ 1 ∨ db.Ungrouped q

theorem answer_countStatement (h : db.Countable q) :
    db.answer q.countStatement = [[db.number (db.counted q)]] := by
  unfold Select.countStatement
  split
  · next hd =>
    obtain ⟨ht, -⟩ | h := h
    · rw [hd] at ht
      cases ht
    · rw [answer_countAll h, counted_rows (.inl hd), length_rows_selection h hd]
  · next e hd hp =>
    obtain ⟨-, hl⟩ | h := h
    · exact absurd (congrArg List.length hp) hl
    · rw [answer_countDistinct h, counted_values hd hp]
  · next hd hmany =>
    have hl : q.projection.length ≠ 1 := by
      intro hl
      obtain ⟨e, he⟩ := List.length_eq_one_iff.mp hl
      exact hmany e he
    rw [counted_rows (.inr hl)]
    rfl

theorem length_dedup_filter_ne {α : Type} [DecidableEq α] (a : α) (xs : List α) :
    (xs.filter (· ≠ a)).dedup.length + (if a ∈ xs then 1 else 0) = xs.dedup.length := by
  have hfilter : (xs.filter (· ≠ a)).toFinset = xs.toFinset.erase a := by
    ext x
    simp [and_comm]
  rw [← List.card_toFinset, ← List.card_toFinset, hfilter]
  by_cases ha : a ∈ xs
  · have hmem : a ∈ xs.toFinset := List.mem_toFinset.mpr ha
    rw [if_pos ha, Finset.card_erase_add_one hmem]
  · have hnotMem : a ∉ xs.toFinset := fun h => ha (List.mem_toFinset.mp h)
    rw [if_neg ha, Finset.erase_eq_of_notMem hnotMem, Nat.add_zero]

theorem counted_column (h : db.Ungrouped q) (hd : q.distinct = true) (hp : q.projection = [e])
    (he : e.isSource = false) :
    db.counted q + (if [db.null] ∈ db.rows q.selection then 1 else 0) =
      (db.rows q.selection).length := by
  -- DISTINCT keeps null as one more value; the count has left it out before duplicates go.
  let values := (db.filtered q.clauses).map fun r => db.value e [r]
  have hsingle : Function.Injective fun v : db.Cell => [v] := fun v w hvw => (List.cons.inj hvw).1
  have hrows : db.rows q.selection = values.dedup.map fun v => [v] := by
    rw [rows_selection_column h hd hp he, ← List.dedup_map_of_injective hsingle, List.map_map]
    rfl
  have hnull : [db.null] ∈ db.rows q.selection ↔ db.null ∈ values := by
    rw [hrows, List.mem_map_of_injective hsingle, List.mem_dedup]
  have hlength := length_dedup_filter_ne db.null values
  rw [counted_values hd hp, hrows, List.length_map, ← hlength]
  simp only [← hrows, hnull]
  rfl

end Database

end Sql

end QueryText
