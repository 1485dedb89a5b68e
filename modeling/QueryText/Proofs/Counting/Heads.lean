import QueryText.Dialect.Presets
import QueryText.Proofs.Coupling.Select
import QueryText.Proofs.Operands
import QueryText.Statement.Written

namespace QueryText

/-- Rules that a configuration can have: those of a dialect, with other operators or on one line. -/
inductive Rules.Derived : Rules → Prop where
  | preset (d : Dialect) : Derived (.ofDialect d)
  | withOperator {r : Rules} (h : Derived r) (op : Operator) (pattern : Pattern) (rank : Option Nat) :
      Derived (r.withOperator op pattern rank)
  | withoutOperator {r : Rules} (h : Derived r) (op : Operator) : Derived (r.withoutOperator op)
  | onOneLine {r : Rules} (h : Derived r) : Derived r.onOneLine

theorem Rules.Derived.eq_preset {r : Rules} (h : r.Derived) :
    ∃ d, r.grammar = (ofDialect d).grammar ∧ r.keywords = (ofDialect d).keywords ∧
      r.identifierQuote = (ofDialect d).identifierQuote := by
  induction h with
  | preset d => exact ⟨d, rfl, rfl, rfl⟩
  | withOperator _ _ _ _ ih => exact ih
  | withoutOperator _ _ ih => exact ih
  | onOneLine _ ih => exact ih

namespace Rules.Derived

variable {r : Rules}

theorem keywords_sql (h : r.Derived) (hg : r.grammar = .sql) :
    r.keywords.select = "select" ∧ r.keywords.countAll = some "count(*)" ∧
      r.keywords.source = "from" := by
  obtain ⟨d, hgrammar, hk, -⟩ := h.eq_preset
  rw [hg] at hgrammar
  rw [hk]
  cases d <;> first | exact ⟨rfl, rfl, rfl⟩ | cases hgrammar

theorem keywords_jpql (h : r.Derived) (hg : r.grammar = .jpql) :
    r.keywords.select = "select" ∧ r.keywords.countAll = none ∧ r.identifierQuote = none := by
  obtain ⟨d, hgrammar, hk, hq⟩ := h.eq_preset
  rw [hg] at hgrammar
  rw [hk, hq]
  cases d <;> first | exact ⟨rfl, rfl, rfl⟩ | cases hgrammar

theorem keywords_jdoql (h : r.Derived) (hg : r.grammar = .jdoql) :
    r.keywords.select = "SELECT" ∧ r.keywords.countAll = some "count(this)" := by
  obtain ⟨d, hgrammar, hk, -⟩ := h.eq_preset
  rw [hg] at hgrammar
  rw [hk]
  cases d <;> first | exact ⟨rfl, rfl⟩ | cases hgrammar

end Rules.Derived

namespace Select

variable {α : Type}

/-- The same query without order and window. -/
def unordered (q : Select α) : Select α :=
  { q with orderBy := [], window := .unrestricted }

/-- The query for everything that there is in the same sources, under the same conditions. -/
def everything (q : Select α) : Select α :=
  { q.unordered with projection := [], distinct := false, unique := false }

end Select

namespace Render

namespace Chunk

variable (texts : List String)

def ofTexts : List Chunk :=
  texts.map .text

@[simp] theorem bindings_ofTexts : bindings (ofTexts texts) = [] := by
  induction texts with
  | nil => rfl
  | cons s ss ih => exact ih

@[simp] theorem paths_ofTexts : paths (ofTexts texts) = [] := by
  induction texts with
  | nil => rfl
  | cons s ss ih => exact ih

@[simp] theorem textFrom_ofTexts (r : Rules) (slot : Nat) :
    textFrom r slot (ofTexts texts) = String.join texts := by
  induction texts with
  | nil => rfl
  | cons s ss ih =>
    change s ++ textFrom r slot (ofTexts ss) = _
    rw [ih, String.join_cons]

end Chunk

def framed (before : List String) (x : Except QueryError (List Chunk)) (after : List String) :
    Except QueryError (List Chunk) :=
  joined (.ok (Chunk.ofTexts before)) (joined x (.ok (Chunk.ofTexts after)))

theorem framed_nil (x : Except QueryError (List Chunk)) : framed [] x [] = x := by
  simp [framed, Chunk.ofTexts]

end Render

open Render

/-- Both fail alike, or they have the same values and paths, and texts that are so related. -/
inductive Alike (R : String → String → Prop) :
    Except QueryError WrittenQuery → Except QueryError WrittenQuery → Prop where
  | failed (e : QueryError) : Alike R (.error e) (.error e)
  | written {s t : String} (h : R s t) (params : List Value) (paths : List (Option Path))
      (dialect : Dialect) (w w' : Window) :
      Alike R (.ok ⟨s, params, paths, dialect, w⟩) (.ok ⟨t, params, paths, dialect, w'⟩)

theorem Select.writtenAs_eq (form : Form) (w : Window) (q : Select Expr) (c : Config) :
    q.writtenAs form w c =
      (Query.write form (q.map Expr.operand) (.of c.rules .resolving c.literals [q.params])).bind
        (WrittenQuery.ofChunks c.rules w) := by
  rw [← q.write_eq, Select.writtenAs_eq_bind]

theorem alike_framed {R : String → String → Prop} {before before' after : List String}
    (h : ∀ s, R (String.join before ++ s ++ String.join after) (String.join before' ++ s))
    (r : Rules) (w w' : Window) (x : Except QueryError (List Chunk)) :
    Alike R ((framed before x after).bind (WrittenQuery.ofChunks r w))
      ((framed before' x []).bind (WrittenQuery.ofChunks r w')) := by
  cases x with
  | error e => exact .failed e
  | ok cs =>
    simp only [framed, joined_ok_ok, Except.bind, WrittenQuery.ofChunks, Chunk.bindings_append,
      Chunk.bindings_ofTexts, Chunk.paths_append, Chunk.paths_ofTexts, Chunk.fullText,
      Chunk.textFrom_append, Chunk.textFrom_ofTexts, List.nil_append, List.append_nil,
      List.length_nil, Nat.add_zero]
    cases WrittenQuery.values (Chunk.bindings cs) with
    | error e => exact .failed e
    | ok vs =>
      have hs := h (Chunk.textFrom r 1 cs)
      rw [String.append_assoc] at hs
      have hempty : String.join [] = "" := rfl
      rw [hempty, String.append_empty]
      exact .written hs vs _ _ w w'

theorem alike_around {R : String → String → Prop} {before after : List String}
    (h : ∀ s, R (String.join before ++ s ++ String.join after) s) (r : Rules) (w w' : Window)
    (x : Except QueryError (List Chunk)) :
    Alike R ((framed before x after).bind (WrittenQuery.ofChunks r w))
      (x.bind (WrittenQuery.ofChunks r w')) := by
  have hwhole : Alike R ((framed before x after).bind (WrittenQuery.ofChunks r w))
      ((framed [] x []).bind (WrittenQuery.ofChunks r w')) :=
    alike_framed (fun s => by simpa using h s) r w w' x
  rwa [framed_nil] at hwhole

namespace Render.Query

open Operand Writer

variable {q : Select Operand} {first : Join Operand} {rest : List (Join Operand)} {c : Context}

theorem writeTail_rows {q q' : Select Operand} (hg : q'.groupBy = q.groupBy) (hh : q'.having = q.having)
    (ho : q'.orderBy = []) (hw : q'.window = .unrestricted) (form : Form) (hf : form ≠ .rows) :
    writeTail q' .rows = writeTail q form := by
  have hwindow : writeWindow .unrestricted = nothing := by
    funext c
    simp only [writeWindow, byRules]
    cases c.rules.pagination <;> rfl
  have hform : (form == .rows) = false := by simpa using hf
  simp only [writeTail, hg, hh, ho, hw, hwindow, hform]
  rfl

def body (form : Form) (q : Select Operand) (first : Join Operand) (rest : List (Join Operand)) : Writer :=
  writeSources first rest ++ filterClause (sourceConditions first rest ++ q.filter.toList) ++
    writeTail q form

theorem writeStatement_count (h : q.joins = first :: rest) :
    writeStatement .count q c =
      joined (joined (joined (selectHead c) (writeCount q first c)) (clauseBreak c))
        (body .count q first rest c) := by
  simp only [writeStatement, h, body, append_apply, joined_assoc]

theorem writeStatement_rows (h : q.joins = first :: rest) {form : Form} (hf : form ≠ .count) :
    writeStatement form q c = joined (rowsHead q first c) (body form q first rest c) := by
  cases form with
  | count => exact absurd rfl hf
  | rows | countedRows => simp only [writeStatement, h, body, append_apply, joined_assoc]

theorem body_everything : body .rows q.everything first rest = body .count q first rest := by
  have htail : writeTail q.everything .rows = writeTail q .count :=
    writeTail_rows rfl rfl rfl rfl .count (by decide)
  simp only [body, htail]
  rfl

theorem body_unordered : body .rows q.unordered first rest = body .countedRows q first rest := by
  have htail : writeTail q.unordered .rows = writeTail q .countedRows :=
    writeTail_rows rfl rfl rfl rfl .countedRows (by decide)
  simp only [body, htail]
  rfl

theorem write_relational (hg : c.rules.grammar ≠ .jdoql) (form : Form) :
    write form q c = writeRelational form q c := by
  simp only [write, byRules]

theorem write_rows (hg : c.rules.grammar ≠ .jdoql) : write .rows q c = writeStatement .rows q c := by
  rw [write_relational hg]
  simp [writeRelational, byRules]

theorem write_count (hg : c.rules.grammar ≠ .jdoql) (hd : q.distinct = false) :
    write .count q c = writeStatement .count q c := by
  rw [write_relational hg]
  simp [writeRelational, byRules, hd]

theorem write_count_sql (hc : c.rules.Derived) (hg : c.rules.grammar = .sql)
    (hj : q.joins = first :: rest) (hd : q.distinct = false) :
    write .count q c =
        framed ["select ", "count(*)", c.rules.clauseBreak] (body .count q first rest c) [] ∧
      write .rows q.everything c =
        framed ["select ", "*", c.rules.clauseBreak] (body .count q first rest c) [] := by
  obtain ⟨hselect, hcount, -⟩ := hc.keywords_sql hg
  have hne : c.rules.grammar ≠ .jdoql := by simp [hg]
  have hj' : q.everything.joins = first :: rest := hj
  rw [write_count hne hd, write_rows hne, writeStatement_count hj, writeStatement_rows hj' (by decide),
    body_everything]
  constructor
  · simp [selectHead, writeCount, clauseBreak, byRules, text, hd, hselect, hcount, framed, Chunk.ofTexts]
  · simp [rowsHead, selectHead, clauseBreak, byRules, text, hselect, hg, framed, Chunk.ofTexts,
      append_apply, Select.everything, when, nothing]

theorem write_count_jpql (hc : c.rules.Derived) (hg : c.rules.grammar = .jpql)
    (hj : q.joins = first :: rest) {p : Path} (hp : first.target = .path p) {e : Entity}
    (he : p.rootEntity? = some e) (hn : c.candidate = none) (hd : q.distinct = false) :
    write .count q c =
        framed ["select ", "count(", p.name, ")", c.rules.clauseBreak] (body .count q first rest c) [] ∧
      write .rows q.everything c = framed [] (body .count q first rest c) [] := by
  obtain ⟨hselect, hcount, hquote⟩ := hc.keywords_jpql hg
  have hne : c.rules.grammar ≠ .jdoql := by simp [hg]
  have hj' : q.everything.joins = first :: rest := hj
  have htarget : first.target.write c = .ok [.text p.name] := by
    rw [hp]
    cases p with
    | child p n r k => cases he
    | root n k =>
      simp [Operand.path, writePath, Path.throughAny, pathText, hn, Rules.identifier, hquote, Path.name]
  rw [write_count hne hd, write_rows hne, writeStatement_count hj, writeStatement_rows hj' (by decide),
    body_everything]
  constructor
  · simp [selectHead, writeCount, clauseBreak, byRules, text, hd, hselect, hcount, framed, Chunk.ofTexts,
      call, append_apply, htarget]
  · simp [rowsHead, byRules, hg, framed, Chunk.ofTexts, Select.everything, nothing]

theorem objectClauses_count (name : String) (e : Entity) :
    objectClauses .count q name e first rest c =
      joined (joined (joined (selectHead c) (objectCount q c)) (clauseBreak c))
        (objectClauses .rows q.everything name e first rest c) := by
  have hhead : objectHead q.everything = nothing := rfl
  have hnothing : nothing c = .ok [] := rfl
  have htail : writeTail q.everything .rows = writeTail q .count :=
    writeTail_rows rfl rfl rfl rfl .count (by decide)
  simp only [objectClauses, append_apply, joined_assoc, hhead, htail, hnothing, nil_joined]
  rfl

theorem write_count_jdoql (hc : c.rules.Derived) (hg : c.rules.grammar = .jdoql)
    (hj : q.joins = first :: rest) {p : Path} (hp : first.target = .path p) {e : Entity}
    (he : p.rootEntity? = some e) (hd : q.distinct = false) :
    write .count q c =
      framed ["SELECT ", "count(this)", c.rules.clauseBreak] (write .rows q.everything c) [] := by
  obtain ⟨hselect, hcount⟩ := hc.keywords_jdoql hg
  have hj' : q.everything.joins = first :: rest := hj
  have hwrite : ∀ {form : Form} {q : Select Operand}, q.joins = first :: rest → write form q c =
      objectClauses form q p.name e first rest
        (if c.nested then c else { c with candidate := some p }) := by
    intro form q hj
    simp [write, byRules, hg, writeObject, hj, hp, source?, Operand.path, he]
  rw [hwrite hj, hwrite hj', objectClauses_count]
  generalize hc' : (if c.nested then c else { c with candidate := some p }) = c'
  have hrules : c'.rules = c.rules := by
    rw [← hc']
    split <;> rfl
  simp [selectHead, objectCount, clauseBreak, byRules, text, hd, hrules, hselect, hcount, framed,
    Chunk.ofTexts]

theorem write_count_distinct (hc : c.rules.Derived) (hg : c.rules.grammar = .sql)
    (hj : q.joins = first :: rest) (hd : q.distinct = true) (hp : q.projection.length ≠ 1) :
    write .count q c =
      framed ["select ", "count(*)", c.rules.clauseBreak, "from ("] (write .rows q.unordered c)
        [") distinct_rows"] := by
  obtain ⟨hselect, hcount, hsource⟩ := hc.keywords_sql hg
  have hne : c.rules.grammar ≠ .jdoql := by simp [hg]
  have hj' : q.unordered.joins = first :: rest := hj
  have hinner : writeStatement .countedRows q c = write .rows q.unordered c := by
    rw [write_rows hne, writeStatement_rows hj (by decide), writeStatement_rows hj' (by decide),
      body_unordered]
    rfl
  have haround : write .count q c = writeCountAround q c := by
    rw [write_relational hne]
    simp [writeRelational, byRules, hg, hd, hp, hj]
  rw [haround, ← hinner]
  simp [writeCountAround, selectHead, clauseBreak, byRules, text, hselect, hcount, hsource, framed,
    Chunk.ofTexts, append_apply, joined_assoc]

end Render.Query

/-- What a number of rows is asked for by, where `name` is the first source. -/
def Grammar.countHead (name : String) : Grammar → String
  | sql => "select count(*)"
  | jpql => "select count(" ++ name ++ ")"
  | jdoql => "SELECT count(this)"

def Rules.everythingHead (r : Rules) : String :=
  match r.grammar with
  | .sql => "select *" ++ r.clauseBreak
  | .jpql | .jdoql => ""

/-- The query for the number of rows is that for the rows under another head. -/
structure Select.CountsByHead (q : Select Expr) (c : Config) (name : String) : Prop where
  /-- every row counts, whatever would have been projected from it -/
  all : q.distinct = false →
    Alike
      (fun count rows => ∃ behind,
        count = c.rules.grammar.countHead name ++ c.rules.clauseBreak ++ behind ∧
          rows = c.rules.everythingHead ++ behind)
      (q.writtenCount c) (q.everything.written c)
  /-- distinct rows are counted around the query for them -/
  distinct : q.distinct = true → c.rules.grammar = .sql → q.projection.length ≠ 1 →
    Alike
      (fun count rows =>
        count = "select count(*)" ++ c.rules.clauseBreak ++ "from (" ++ rows ++ ") distinct_rows")
      (q.writtenCount c) (q.unordered.written c)
  window : ∀ w, q.writtenCount c = .ok w → w.window = .unrestricted

theorem window_of_ofChunks {r : Rules} {w : Window} {cs : List Chunk} {s : WrittenQuery}
    (h : WrittenQuery.ofChunks r w cs = .ok s) : s.window = w := by
  obtain ⟨vs, -, rfl⟩ := Except.map_eq_ok_iff.mp h
  rfl

theorem writtenCount_window {q : Select Expr} {c : Config} {w : WrittenQuery}
    (h : q.writtenCount c = .ok w) : w.window = .unrestricted := by
  rw [Select.writtenCount, q.writtenAs_eq] at h
  obtain ⟨cs, -, h⟩ := Except.bind_eq_ok_iff.mp h
  exact window_of_ofChunks h

/-- For every query whose first source is an entity of its own. -/
theorem writtenCount_by_head (q : Select Expr) (c : Config) (hc : c.rules.Derived) {first : Join Expr}
    {rest : List (Join Expr)} (hj : q.joins = first :: rest) {p : Path} (hp : first.target = .path p)
    {e : Entity} (he : p.rootEntity? = some e) : q.CountsByHead c p.name := by
  let o := q.map Expr.operand
  let d := Context.of c.rules .resolving c.literals [q.params]
  have hj' : o.joins = first.map Expr.operand :: rest.map (Join.map Expr.operand) := Select.joins_map hj
  have hp' : (first.map Expr.operand).target = .path p := by
    simp only [Join.map, hp, Expr.operand]
  have hcount : q.writtenCount c =
      (Query.write .count o d).bind (WrittenQuery.ofChunks c.rules .unrestricted) :=
    q.writtenAs_eq .count .unrestricted c
  refine ⟨fun hd => ?_, fun hd hg hl => ?_, fun w => writtenCount_window⟩
  · have hrows : q.everything.written c =
        (Query.write .rows o.everything d).bind (WrittenQuery.ofChunks c.rules .unrestricted) :=
      q.everything.writtenAs_eq .rows .unrestricted c
    rw [hcount, hrows]
    simp only [Rules.everythingHead]
    cases hg : c.rules.grammar with
    | sql =>
      obtain ⟨hx, hy⟩ := Query.write_count_sql (c := d) hc hg hj' hd
      rw [hx, hy]
      refine alike_framed (fun s => ⟨s, ?_, ?_⟩) c.rules _ _ _ <;>
        simp [String.join_cons, ← String.append_assoc, Grammar.countHead, d, Context.of]
    | jpql =>
      obtain ⟨hx, hy⟩ := Query.write_count_jpql (c := d) hc hg hj' hp' he rfl hd
      rw [hx, hy]
      refine alike_framed (fun s => ⟨s, ?_, ?_⟩) c.rules _ _ _ <;>
        simp [String.join_cons, ← String.append_assoc, Grammar.countHead, d, Context.of]
    | jdoql =>
      rw [Query.write_count_jdoql (c := d) hc hg hj' hp' he hd]
      refine alike_around (fun s => ⟨s, ?_, ?_⟩) c.rules _ _ _ <;>
        simp [String.join_cons, ← String.append_assoc, Grammar.countHead, d, Context.of]
  · have hl' : o.projection.length ≠ 1 := by simpa only [o, Select.map, List.length_map] using hl
    have hrows : q.unordered.written c =
        (Query.write .rows o.unordered d).bind (WrittenQuery.ofChunks c.rules .unrestricted) :=
      q.unordered.writtenAs_eq .rows .unrestricted c
    rw [hcount, hrows, Query.write_count_distinct (c := d) hc hg hj' hd hl']
    refine alike_around (fun s => ?_) c.rules _ _ _
    simp [String.join_cons, ← String.append_assoc, d, Context.of]

/-- The first three pairs of name and age among the cats with that name, each pair once. -/
def firstCats (name : Value) : Select Expr :=
  let cat := Path.source (.ofType "Cat") "cat"
  { Select.empty with
    joins := [.of .plain (.path cat)]
    filter := some (.operation .eq [.path (cat.property "name" .text), .constant name])
    orderBy := [⟨.path (cat.property "age" .int), .descending, .unspecified⟩]
    projection := [.path (cat.property "name" .text), .path (cat.property "age" .int)]
    distinct := true
    window := .ofLimit 3 }

theorem writtenCount_by_head_firstCats :
    (firstCats (.text "Tom")).CountsByHead .standard "cat" :=
  writtenCount_by_head (firstCats (.text "Tom")) .standard (.preset .ansi) rfl
    (p := .source (.ofType "Cat") "cat") rfl rfl

end QueryText
