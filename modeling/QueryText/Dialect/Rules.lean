import QueryText.Error
import QueryText.Text.Quoted

namespace QueryText

inductive PlaceholderStyle where
  /-- `?` -/
  | question
  /-- `$1`, `$2`, … -/
  | dollar
  /-- `?1`, `?2`, … -/
  | numberedQuestion
  /-- `:a1`, `:a2`, … -/
  | named (stem : String)

namespace PlaceholderStyle

/-- The placeholder of the slot with that number, counted from one. -/
def text (s : PlaceholderStyle) (slot : Nat) : String :=
  match s with
  | question => "?"
  | dollar => "$" ++ toString slot
  | numberedQuestion => "?" ++ toString slot
  | named stem => ":" ++ stem ++ toString slot

end PlaceholderStyle

inductive Pagination where
  /-- `limit n` and `offset m`; a window without a limit is given `missingLimit`. -/
  | limitOffset (missingLimit : Option UInt64)
  /-- `offset m rows` and `fetch first n rows only` -/
  | offsetFetch
  /-- `RANGE from, to`, the upper bound excluded -/
  | range
  /-- The statement handle is told the window, the text is not. -/
  | external

structure Keywords where
  select : String
  distinct : String
  unique : Option String
  source : String
  filter : String
  groupBy : String
  having : String
  orderBy : String
  ascending : String
  descending : String
  nullsFirst : Option String
  nullsLast : Option String
  join : String
  innerJoin : String
  leftJoin : String
  rightJoin : Option String
  fullJoin : Option String
  condition : String
  variableList : Option String
  countAll : Option String
  insertInto : Option String
  values : String
  update : Option String
  assign : String
  deleteFrom : String

def Keywords.toList (k : Keywords) : List (Option String) :=
  [k.select, k.distinct, k.unique, k.source, k.filter, k.groupBy, k.having, k.orderBy,
   k.ascending, k.descending, k.nullsFirst, k.nullsLast, k.join, k.innerJoin, k.leftJoin,
   k.rightJoin, k.fullJoin, k.condition, k.variableList, k.countAll, k.insertInto, k.values,
   k.update, k.assign, k.deleteFrom]

structure Wrap where
  before : String
  after : String

namespace Wrap

def around (w : Wrap) (s : String) : String :=
  w.before ++ s ++ w.after

end Wrap

/-- Spellings of literals; a missing one cannot be written. -/
structure LiteralForms where
  true : String
  false : String
  null : String
  date : Option Wrap
  time : Option Wrap
  dateTime : Option Wrap
  bytes : Option Wrap
  alwaysTrue : String
  alwaysFalse : String

/-- A smaller rank binds tighter; a pattern without rank is a call or the like. -/
structure OperatorRule where
  pattern : Pattern
  rank : Option Nat
  deriving DecidableEq

structure Rules where
  dialect : Dialect
  grammar : Grammar
  operators : Operator → Option OperatorRule
  keywords : Keywords
  literals : LiteralForms
  identifierQuote : Option Char
  reserved : List String
  placeholders : PlaceholderStyle
  pagination : Pagination
  likeEscape : Option Char
  /-- stands between two clauses -/
  clauseBreak : String
  /-- a list is written as a group of placeholders or literals -/
  flattensLists : Bool
  /-- conditions through any element of a collection become joins -/
  joinsAnyPaths : Bool

namespace Rules

def withOperator (r : Rules) (op : Operator) (pattern : Pattern) (rank : Option Nat) : Rules :=
  { r with operators := fun o => if o = op then some ⟨pattern, rank⟩ else r.operators o }

def withoutOperator (r : Rules) (op : Operator) : Rules :=
  { r with operators := fun o => if o = op then none else r.operators o }

def onOneLine (r : Rules) : Rules :=
  { r with
    clauseBreak := " "
    operators := fun o => (r.operators o).map fun t => { t with pattern := t.pattern.singleLine } }

/-- The operators that can be written, in the order of their declaration. -/
def writable (r : Rules) : List Operator :=
  Operator.all.filter fun op => (r.operators op).isSome

def unsupported {α : Type} (r : Rules) (c : Construct) : Except QueryError α :=
  .error (.unsupported c r.dialect)

def require (r : Rules) (op : Operator) : Except QueryError OperatorRule :=
  match r.operators op with
  | some t => .ok t
  | none => r.unsupported (.operator op)

/-- The keyword before a joined source; a plain source has none. -/
def joinKeyword (r : Rules) (k : JoinKind) : Except QueryError (Option String) :=
  let keyword : Option String → Except QueryError (Option String)
    | some w => .ok (some w)
    | none => r.unsupported (.keywordlessJoin k)
  match k with
  | .plain => .ok none
  | .join => .ok (some r.keywords.join)
  | .inner => .ok (some r.keywords.innerJoin)
  | .left => .ok (some r.keywords.leftJoin)
  | .right => keyword r.keywords.rightJoin
  | .full => keyword r.keywords.fullJoin

def isReserved (r : Rules) (word : String) : Bool :=
  r.reserved.contains (String.ofList (word.toList.map Char.toUpper))

def isPlainName : List Char → Bool
  | [] => false
  | c :: cs =>
    (c.isAlpha || c == '_') && (c :: cs).all fun d => d.isAlphanum || d == '_' || d == '$'

/-- An identifier as it is written, quoted where the dialect needs that. -/
def identifier (r : Rules) (name : String) : String :=
  match r.identifierQuote with
  | none => name
  | some q => if isPlainName name.toList && !r.isReserved name then name else Text.Quoted.quote q name

def placeholder (r : Rules) (slot : Nat) : String :=
  r.placeholders.text slot

/-- The values that a bound value spreads over, one for each slot. -/
def slotValues (r : Rules) (v : Value) : List Value :=
  match v with
  | .list items => if r.flattensLists then items else [v]
  | _ => [v]

def slotCount (r : Rules) (v : Value) : Nat :=
  (r.slotValues v).length

/-- Puts the escape character `e` before wildcards and before itself. -/
def escapeWildcards (e : Char) : List Char → List Char
  | [] => []
  | c :: cs =>
    if c == '%' || c == '_' || c == e then e :: c :: escapeWildcards e cs
    else c :: escapeWildcards e cs

def escapeLike (r : Rules) (s : String) : String :=
  match r.likeEscape with
  | none => s
  | some e => String.ofList (escapeWildcards e s.toList)

end Rules

end QueryText
