import QueryText.Proofs.Counting.Meaning
import QueryText.Query

namespace QueryText

open Execute Sql

/-- The settings are those of a dialect of SQL. -/
structure Config.WritesSql (c : Config) : Prop where
  grammar : c.rules.grammar = .sql
  rules : ∃ d, c.rules = .ofDialect d ∨ c.rules = (Rules.ofDialect d).onOneLine

theorem Config.WritesSql.derived {c : Config} (h : c.WritesSql) : c.rules.Derived := by
  obtain ⟨d, hr | hr⟩ := h.rules
  · rw [hr]
    exact .preset d
  · rw [hr]
    exact .onOneLine (.preset d)

namespace Sql.Database

/-- That many rows fit into the number that is handed over to the program. -/
def Hands (db : Database) (n : Nat) : Prop :=
  (∃ m : UInt64, db.read (db.number n) = .uint m ∧ m.toNat = n) ∨
    ∃ m : Int64, db.read (db.number n) = .int m ∧ m.toInt = n

theorem Hands.countOf {db : Database} {n : Nat} (h : db.Hands n) :
    ∃ m, Query.countOf [[db.read (db.number n)]] = .ok m ∧ m.toNat = n := by
  obtain ⟨m, hm, hn⟩ | ⟨m, hm, hn⟩ := h
  · rw [hm]
    exact ⟨m, rfl, hn⟩
  · have hle : 0 ≤ m.toInt := by
      rw [hn]
      exact Int.natCast_nonneg n
    have hcount : Query.countOf [[.int m]] = .ok m.toUInt64 := if_pos hle
    rw [hm, hcount]
    refine ⟨m.toUInt64, rfl, ?_⟩
    have hm' : 0 ≤ m := Int64.le_iff_toInt_le.mpr hle
    rw [Int64.toNat_toUInt64_of_le hm', ← Int64.toNat_toInt, hn, Int.toNat_natCast]

end Sql.Database

namespace Query

variable {σ : Type} {db : Database} {b : Backend σ} {q : Query} {s : σ}

/-- The backend runs the statement to its end, and the rows that it returns are those that the statement
means for the tables. -/
def Answers (db : Database) (b : Backend σ) (q : Query) (s : σ) (st : Statement) : Prop :=
  ∃ w o, st.written q.config q.builder.select.params = .ok w ∧
    (run b q.config .count w.statement .empty none s).result = .ok o ∧
    o.toRows = (db.answer st).map (·.map db.read)

/-- What the number tells of the rows. -/
structure Tells (db : Database) (q : Select Expr) (n : UInt64) : Prop where
  rows : q.distinct = false ∨ q.projection.length ≠ 1 → n.toNat = (db.rows q.selection).length
  values {e : Expr} (hd : q.distinct = true) (hp : q.projection = [e]) :
    n.toNat = (db.distinctValues e (db.filtered q.clauses)).length
  /-- the rows of a single column are counted without that of null -/
  column {e : Expr} (hd : q.distinct = true) (hp : q.projection = [e]) (he : e.isSource = false) :
    n.toNat + (if [db.null] ∈ db.rows q.selection then 1 else 0) = (db.rows q.selection).length

theorem tells_counted {q : Select Expr} {n : UInt64} (h : db.Countable q) (hn : n.toNat = db.counted q) :
    Tells db q n where
  rows hq := by rw [hn, Database.counted_rows hq]
  values hd hp := by rw [hn, Database.counted_values hd hp]
  column hd hp he := by
    obtain ⟨-, hl⟩ | h := h
    · exact absurd (congrArg List.length hp) hl
    · rw [hn, Database.counted_column h hd hp he]

theorem count_of_answers (hc : q.config.WritesSql)
    (ha : Answers db b q s q.builder.select.countStatement) :
    (count b q s).result =
      countOf ((db.answer q.builder.select.countStatement).map (·.map db.read)) := by
  obtain ⟨w, o, hw, hrun, hrows⟩ := ha
  have hwritten : q.writtenCount = .ok w := by
    rw [writtenCount, Select.writtenCount_eq hc.derived hc.grammar, hw]
  simp only [count, hwritten, Report.after, Report.map, hrun, Except.bind, hrows]

/-- A backend that answers by what the statement means makes the query report the number of rows that
it would list; of distinct values, null is not counted. -/
theorem count_tells (hc : q.config.WritesSql) (hq : db.Countable q.builder.select)
    (ha : Answers db b q s q.builder.select.countStatement)
    (hn : db.Hands (db.counted q.builder.select)) :
    q.builder.select.unordered.written q.config =
        (Statement.selection q.builder.select.selection).written q.config q.builder.select.params ∧
      ∃ n, (count b q s).result = .ok n ∧ Tells db q.builder.select n := by
  refine ⟨Select.written_unordered_eq hc.grammar _, ?_⟩
  obtain ⟨n, hcount, hn⟩ := hn.countOf
  refine ⟨n, ?_, tells_counted hq hn⟩
  rw [count_of_answers hc ha, Database.answer_countStatement hq]
  exact hcount

/-- A cat with a name, and one without. -/
def twoCats : Database where
  Row := Option Nat
  Cell := Option Nat
  null := none
  number n := some n
  combined _ := [some 7, none]
  value
    | .operation .max _, g => (g.filterMap id).max?
    | .constant _, _ => some 1
    | _, g => g.head?.join
  holds v := v.isSome
  source _ g := [g.head?.join]
  everything g := [g.head?.join]
  aggregates _ := false
  read
    | none => .null
    | some n => .uint (UInt64.ofNat n)

/-- A backend that always has the same answer. -/
def answering (rows : List (List Value)) : Backend Unit where
  prepare _ s := (.ok (), s)
  setRange _ s := (.ok (), s)
  bind _ _ _ s := (.ok 1, s)
  execute s := (.ok (.rows rows), s)
  close s := (.ok (), s)

def name : Expr :=
  .path ((Path.source (.ofType "Cat") "cat").property "name" .text)

/-- The names of the cats, once something else has been asked of them. -/
def names (change : Select Expr → Select Expr) : Query :=
  let q : Select Expr :=
    { Select.empty with
      joins := [.of .plain (.path (.source (.ofType "Cat") "cat"))]
      projection := [name] }
  ⟨⟨change q, false, 0⟩, .standard⟩

theorem count_tells_names :
    ∃ n, (count (answering [[.uint 1]]) (names (·.withDistinct true)) ()).result = .ok n ∧
      Tells twoCats (names (·.withDistinct true)).builder.select n :=
  (count_tells ⟨rfl, .ansi, .inl rfl⟩ (.inr ⟨rfl, rfl, rfl⟩) ⟨_, _, rfl, rfl, rfl⟩
    (.inl ⟨1, rfl, rfl⟩)).2

/-- The number that the query reports is not that of its rows. -/
def Misses (db : Database) (q : Query) : Prop :=
  ∃ (b : Backend Unit) (n : UInt64), Answers db b q () q.builder.select.countStatement ∧
    (count b q ()).result = .ok n ∧ n.toNat ≠ (db.rows q.builder.select.selection).length

/-- Null is a name like others to DISTINCT, and is not counted. Where rows are put together in groups, or
all of them into one, the number is that of the rows in the first group. -/
theorem twoCats_misses :
    Misses twoCats (names (·.withDistinct true)) ∧
      Misses twoCats (names (·.addGroup name)) ∧
      Misses twoCats (names fun q => { q with having := some (.constant (.bool true)) }) ∧
      Misses twoCats (names fun q => { q with projection := [.operation .max [name]] }) := by
  refine ⟨?_, ?_, ?_, ?_⟩
  · exact ⟨answering [[.uint 1]], 1, ⟨_, _, rfl, rfl, rfl⟩, rfl, by decide⟩
  · exact ⟨answering [[.uint 1], [.uint 1]], 1, ⟨_, _, rfl, rfl, rfl⟩, rfl, by decide⟩
  · exact ⟨answering [[.uint 2]], 2, ⟨_, _, rfl, rfl, rfl⟩, rfl, by decide⟩
  · exact ⟨answering [[.uint 2]], 2, ⟨_, _, rfl, rfl, rfl⟩, rfl, by decide⟩

end Query

end QueryText
