import QueryText.Render.Operand

namespace QueryText.Render

inductive Form where
  | rows
  | count
  /-- the distinct rows that a count around them counts -/
  | countedRows
  deriving DecidableEq

namespace Query

open Writer Operand

def conjunction? : List Operand → Option Operand
  | [] => none
  | o :: os => some (os.foldl (fun a b => operation .and [a, b]) o)

def clause (keyword : Rules → String) (content : Writer) : Writer :=
  clauseBreak ++ byRules (fun r => text (keyword r ++ " ")) ++ content

def filterClause (conditions : List Operand) : Writer :=
  match conjunction? conditions with
  | none => nothing
  | some o => clause (·.keywords.filter) o.write

/-- A source of its own, whose table or entity is named before its variable. -/
def writeSource (name : String) (e : Entity) : Writer := fun c =>
  match c.rules.grammar with
  | .sql =>
    ((match e.schema with
      | some s => identifier s ++ text "."
      | none => nothing) ++ identifier e.table ++ text " " ++ identifier name) c
  | _ => (text (e.simpleName ++ " ") ++ identifier name) c

def source? (o : Operand) : Option (String × Entity) :=
  match o.expr with
  | .path p => p.rootEntity?.map fun e => (p.name, e)
  | _ => none

def writeTarget (j : Join Operand) : Writer :=
  all (j.flags.map fun f => text f.before) ++
    match source? j.target with
    | some (name, e) => writeSource name e
    | none => j.target.write

def writeAfterTarget (j : Join Operand) : Writer :=
  all (j.flags.map fun f => text f.after)

def writeProjected (o : Operand) : Writer := fun c =>
  match c.rules.grammar, source? o with
  | .sql, some (name, _) => (identifier name ++ text ".*") c
  | _, _ => o.write c

def writeProjection (os : List Operand) : Writer :=
  separated ", " (os.map writeProjected)

/-- The first source stands alone, a plain one follows a comma, any other one follows its keyword on
a line of its own. The conditions of the first two kinds are left to the filter. -/
def writeLaterJoin (j : Join Operand) : Writer :=
  if j.kind = .plain then text ", " ++ writeTarget j ++ writeAfterTarget j
  else
    clauseBreak ++
      lift (fun r => (r.joinKeyword j.kind).map fun k =>
        match k with
        | some k => text (k ++ " ")
        | none => nothing) ++
      writeTarget j ++
      (match j.condition with
        | some o => byRules (fun r => text (" " ++ r.keywords.condition ++ " ")) ++ o.write
        | none => nothing) ++
      writeAfterTarget j

/-- Conditions that are written in the filter instead of beside their join. -/
def sourceConditions (first : Join Operand) (rest : List (Join Operand)) : List Operand :=
  first.condition.toList ++ (rest.filter (·.kind = .plain)).flatMap (·.condition.toList)

def writeSources (first : Join Operand) (rest : List (Join Operand)) : Writer :=
  byRules (fun r => text (r.keywords.source ++ " ")) ++ writeTarget first ++ writeAfterTarget first ++
    all (rest.map writeLaterJoin)

def call (name : String) (w : Writer) : Writer :=
  text (name ++ "(") ++ w ++ text ")"

def countDistinct (w : Writer) : Writer :=
  byRules fun r => call "count" (text (r.keywords.distinct ++ " ") ++ w)

/-- The number of rows, or of distinct values of the one thing projected. -/
def writeCount (q : Select Operand) (first : Join Operand) : Writer :=
  if q.distinct then
    match q.projection with
    | [] => countDistinct first.target.write
    | [o] => countDistinct o.write
    | _ => unsupported .multiColumnCount
  else
    byRules fun r =>
      match r.keywords.countAll with
      | some s => text s
      | none => call "count" first.target.write

def selectHead : Writer :=
  byRules fun r => text (r.keywords.select ++ " ")

def writeOrder (o : Order Operand) : Writer :=
  o.target.write ++ text " " ++
    byRules (fun r => text
      (match o.direction with
      | .ascending => r.keywords.ascending
      | .descending => r.keywords.descending)) ++
    match o.nulls with
    | .unspecified => nothing
    | .first => nullsWord (·.nullsFirst) .nullsFirst
    | .last => nullsWord (·.nullsLast) .nullsLast
where
  nullsWord (keyword : Keywords → Option String) (k : Construct) : Writer :=
    byRules fun r =>
      match keyword r.keywords with
      | some s => text (" " ++ s)
      | none => unsupported k

def rangeEnd : UInt64 :=
  Int64.maxValue.toUInt64

def number (n : UInt64) : String :=
  toString n.toNat

def line (b : Bool) (s : String) : Writer :=
  when b (clauseBreak ++ text s)

def optionLine (n : Option UInt64) (before after : String) : Writer :=
  match n with
  | some n => line true (before ++ number n ++ after)
  | none => nothing

def writeWindow (w : Window) : Writer :=
  byRules fun r =>
    match r.pagination with
    | .limitOffset missing =>
      optionLine (w.limit.or (if w.offset.isSome then missing else none)) "limit " "" ++
        optionLine w.offset "offset " ""
    | .offsetFetch =>
      optionLine w.offset "offset " " rows" ++ optionLine w.limit "fetch first " " rows only"
    | .range =>
      line w.isRestricting
        ("RANGE " ++ number (w.offset.getD 0) ++ ", " ++ number (w.stop?.getD rangeEnd))
    | .external => nothing

/-- The clauses after the filter. Order and window matter only to rows. -/
def writeTail (q : Select Operand) (form : Form) : Writer :=
  (if q.groupBy.isEmpty then nothing
    else clause (·.keywords.groupBy) (separated ", " (q.groupBy.map (·.write)))) ++
  (match q.having with
    | some o => clause (·.keywords.having) o.write
    | none => nothing) ++
  when (form == .rows)
    ((if q.orderBy.isEmpty then nothing
      else clause (·.keywords.orderBy) (separated ", " (q.orderBy.map writeOrder))) ++
      writeWindow q.window)

def rowsHead (q : Select Operand) (first : Join Operand) : Writer :=
  byRules fun r =>
    if q.projection.isEmpty && r.grammar != .sql && !q.distinct then nothing
    else
      selectHead ++ when q.distinct (text (r.keywords.distinct ++ " ")) ++
        (if q.projection.isEmpty then
          if r.grammar = .sql then text "*" else first.target.write
        else writeProjection q.projection) ++
        clauseBreak

def writeStatement (form : Form) (q : Select Operand) : Writer :=
  match q.joins with
  | [] => fail (.precondition .noSource)
  | first :: rest =>
    (match form with
      | .count => selectHead ++ writeCount q first ++ clauseBreak
      | _ => rowsHead q first) ++
    writeSources first rest ++
    filterClause (sourceConditions first rest ++ q.filter.toList) ++
    writeTail q form

/-- The number of distinct rows, counted around the query for them. -/
def writeCountAround (q : Select Operand) : Writer :=
  selectHead ++ byRules (fun r => text (r.keywords.countAll.getD "count(*)")) ++ clauseBreak ++
    byRules (fun r => text (r.keywords.source ++ " (")) ++ writeStatement .countedRows q ++
    text ") distinct_rows"

/-- In SQL, distinct rows of other than one column can only be counted from outside. -/
def writeRelational (form : Form) (q : Select Operand) : Writer :=
  byRules fun r =>
    if form = .count && r.grammar = .sql && q.distinct && q.projection.length != 1 && !q.joins.isEmpty then
      writeCountAround q
    else writeStatement form q

def typeName : Kind → String
  | .entity e => e.typeName
  | .text => "java.lang.String"
  | .int => "java.lang.Long"
  | .float => "java.lang.Double"
  | .bool => "java.lang.Boolean"
  | .date | .dateTime | .time => "java.util.Date"
  | .bytes => "byte[]"
  | .collection _ => "java.util.Collection"
  | .any => "java.lang.Object"

def declaration (v : Path) : String :=
  typeName v.kind ++ " " ++ v.name

/-- The variable that a later join declares, and the condition that ties it to its collection. -/
def declared (j : Join Operand) : Except Construct (Path × List Operand) :=
  match j.target.expr with
  | .operation .asAlias _ =>
    match j.target.args with
    | collection :: o :: _ =>
      match o.expr with
      | .path v => .ok (v, [operation .isIn [path v, collection]])
      | _ => .error .aliasWithoutVariable
    | _ => .error .aliasWithoutVariable
  | .path p => if j.kind = .plain && p.isRoot then .ok (p, []) else .error (.undeclaringJoin j.kind)
  | _ => .error (.undeclaringJoin j.kind)

def declarations : List (Join Operand) → Except Construct (List Path × List Operand)
  | [] => .ok ([], [])
  | j :: js =>
    match declared j with
    | .error e => .error e
    | .ok (v, ties) =>
      match declarations js with
      | .error e => .error e
      | .ok (vs, conditions) => .ok (v :: vs, ties ++ j.condition.toList ++ conditions)

def variablesClause (vs : List Path) : Writer :=
  if vs.isEmpty then nothing
  else
    clause (fun r => r.keywords.variableList.getD "VARIABLES")
      (text (String.intercalate "; " (vs.map declaration)))

def objectCount (q : Select Operand) : Writer :=
  if q.distinct then
    match q.projection with
    | [] => countDistinct (text "this")
    | [o] => countDistinct o.write
    | _ => unsupported .multiColumnCount
  else byRules fun r => text (r.keywords.countAll.getD "count(this)")

/-- The first line of an object query, which may be left out when it would be bare. -/
def objectHead (q : Select Operand) : Writer :=
  if q.projection.isEmpty && !q.distinct && !q.unique then nothing
  else
    byRules (fun r =>
      text r.keywords.select ++
        when q.unique (match r.keywords.unique with
          | some s => text (" " ++ s)
          | none => nothing) ++
        when q.distinct (text (" " ++ r.keywords.distinct))) ++
      when (!q.projection.isEmpty) (text " " ++ writeProjection q.projection) ++
      clauseBreak

def objectClauses (form : Form) (q : Select Operand) (name : String) (e : Entity)
    (first : Join Operand) (rest : List (Join Operand)) : Writer := fun c =>
  ((match form with
      | .count => selectHead ++ objectCount q ++ clauseBreak
      | _ => objectHead q) ++
    byRules (fun r => text (r.keywords.source ++ " " ++ e.typeName)) ++
    when c.nested (text (" " ++ name)) ++
    (match declarations rest with
      | .error k => unsupported k
      | .ok (vs, conditions) =>
        filterClause (first.condition.toList ++ conditions ++ q.filter.toList) ++ variablesClause vs) ++
    writeTail q form) c

/-- An object query ranges over its candidate, the first source; the others become variables. -/
def writeObject (form : Form) (q : Select Operand) : Writer :=
  match q.joins with
  | [] => fail (.precondition .noSource)
  | first :: rest =>
    match first.target.expr, source? first.target with
    | .path p, some (name, e) => fun c =>
      objectClauses form q name e first rest (if c.nested then c else { c with candidate := some p })
    | _, _ => unsupported .candidate

def write (form : Form) (q : Select Operand) : Writer :=
  byRules fun r =>
    match r.grammar with
    | .jdoql => writeObject form q
    | _ => writeRelational form q

end Query

namespace Operand

/-- A query in parentheses. Its own values are in scope, and the candidate around it is not. -/
def subQuery (e : Expr) (q : Select Operand) : Operand :=
  ⟨e, fun c => Writer.parenthesized (Query.write .rows q) (c.inside q.params), []⟩

end Operand

end QueryText.Render
