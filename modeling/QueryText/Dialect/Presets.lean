import QueryText.Dialect.Rules
import QueryText.Window

namespace QueryText.Rules

def sign : Nat :=
  5

def product : Nat :=
  10

def sum : Nat :=
  20

def comparison : Nat :=
  30

def negation : Nat :=
  40

def boolean : Nat :=
  50

def ranked (pattern : String) (rank : Nat) : Option OperatorRule :=
  some ⟨⟨pattern⟩, some rank⟩

def unranked (pattern : String) : Option OperatorRule :=
  some ⟨⟨pattern⟩, none⟩

def sharedOperators : Operator → Option OperatorRule
  | .and => ranked "{0} and {1}" boolean
  | .or => ranked "{0} or {1}" boolean
  | .not => ranked "not {0}" negation
  | .eq => ranked "{0} = {1}" comparison
  | .ne => ranked "{0} <> {1}" comparison
  | .lt => ranked "{0} < {1}" comparison
  | .gt => ranked "{0} > {1}" comparison
  | .le => ranked "{0} <= {1}" comparison
  | .ge => ranked "{0} >= {1}" comparison
  | .between => ranked "{0} between {1} and {2}" comparison
  | .like => ranked "{0} like {1}" comparison
  | .isIn => ranked "{0} in {1}" comparison
  | .notIn => ranked "{0} not in {1}" comparison
  | .isNull => ranked "{0} is null" comparison
  | .isNotNull => ranked "{0} is not null" comparison
  | .existsIn => unranked "exists {0}"
  | .add => ranked "{0} + {1}" sum
  | .sub => ranked "{0} - {1}" sum
  | .mul => ranked "{0} * {1}" product
  | .div => ranked "{0} / {1}" product
  | .mod => unranked "mod({0}, {1})"
  | .negate => ranked "-{0}" sign
  | .lower => unranked "lower({0})"
  | .upper => unranked "upper({0})"
  | .trim => unranked "trim({0})"
  | .length => unranked "length({0})"
  | .startsWith => ranked "{0} like {1%} escape '!'" comparison
  | .endsWith => ranked "{0} like {%1} escape '!'" comparison
  | .containsText => ranked "{0} like {%1%} escape '!'" comparison
  | .abs => unranked "abs({0})"
  | .sqrt => unranked "sqrt({0})"
  | .count => unranked "count({0})"
  | .countDistinct => unranked "count(distinct {0})"
  | .sum => unranked "sum({0})"
  | .avg => unranked "avg({0})"
  | .min => unranked "min({0})"
  | .max => unranked "max({0})"
  | _ => none

def sqlOperators : Operator → Option OperatorRule
  | .concat => ranked "{0} || {1}" sum
  | .substringFrom => unranked "substr({0}, {1}+1)"
  | .substringBetween => unranked "substr({0}, {1}+1, {2}-{1})"
  | .indexOf => ranked "locate({1}, {0})-1" sum
  | .asAlias => unranked "{0} {1}"
  | op => sharedOperators op

def derbyOperators : Operator → Option OperatorRule
  | .concat => unranked "varchar({0} || {1})"
  | op => sqlOperators op

def mysqlOperators : Operator → Option OperatorRule
  | .concat => unranked "concat({0}, {1})"
  | .length => unranked "char_length({0})"
  | .mod => ranked "{0} % {1}" product
  | op => sqlOperators op

def postgresOperators : Operator → Option OperatorRule
  | .mod => ranked "{0} % {1}" product
  | .indexOf => ranked "strpos({0}, {1})-1" sum
  | op => sqlOperators op

def jpqlOperators : Operator → Option OperatorRule
  | .concat => unranked "concat({0}, {1})"
  | .substringFrom => unranked "substring({0}, {1}+1)"
  | .substringBetween => unranked "substring({0}, {1}+1, {2}-{1})"
  | .indexOf => ranked "locate({1}, {0})-1" sum
  | .isEmpty => ranked "{0} is empty" comparison
  | .isNotEmpty => ranked "{0} is not empty" comparison
  | .size => unranked "size({0})"
  | .instanceOf => ranked "type({0}) = {1}" comparison
  | .asAlias => unranked "{0} as {1}"
  | op => sharedOperators op

def jdoqlOperators : Operator → Option OperatorRule
  | .and => ranked "{0} && {1}" boolean
  | .or => ranked "{0} || {1}" boolean
  | .not => ranked "!{0}" negation
  | .eq => ranked "{0} == {1}" comparison
  | .ne => ranked "{0} != {1}" comparison
  | .between => ranked "{0} >= {1} && {0} <= {2}" boolean
  | .like => unranked "{0}.matches({1})"
  | .isIn => unranked "{1}.contains({0})"
  | .notIn => ranked "!{1}.contains({0})" negation
  | .isNull => ranked "{0} == null" comparison
  | .isNotNull => ranked "{0} != null" comparison
  | .mod => ranked "{0} % {1}" product
  | .concat => ranked "{0} + {1}" sum
  | .lower => unranked "{0}.toLowerCase()"
  | .upper => unranked "{0}.toUpperCase()"
  | .trim => unranked "{0}.trim()"
  | .length => unranked "{0}.length()"
  | .substringFrom => unranked "{0}.substring({1})"
  | .substringBetween => unranked "{0}.substring({1}, {2})"
  | .startsWith => unranked "{0}.startsWith({1})"
  | .endsWith => unranked "{0}.endsWith({1})"
  | .containsText => ranked "{0}.indexOf({1}) > -1" comparison
  | .indexOf => unranked "{0}.indexOf({1})"
  | .abs => unranked "Math.abs({0})"
  | .sqrt => unranked "Math.sqrt({0})"
  | .isEmpty => unranked "{0}.isEmpty()"
  | .isNotEmpty => ranked "!{0}.isEmpty()" negation
  | .size => unranked "{0}.size()"
  | .instanceOf => ranked "{0} instanceof {1}" comparison
  | .asAlias => unranked "{0} {1}"
  | .existsIn => none
  | op => sharedOperators op

def sqlReserved : List String :=
  ["ALL", "AND", "ANY", "AS", "ASC", "BETWEEN", "BY", "CASE", "CHECK", "COLUMN", "CREATE",
   "CROSS", "CURRENT", "DATE", "DEFAULT", "DELETE", "DESC", "DISTINCT", "DROP", "ELSE", "END",
   "EXISTS", "FALSE", "FETCH", "FOR", "FOREIGN", "FROM", "FULL", "GROUP", "HAVING", "IN",
   "INNER", "INSERT", "INTO", "IS", "JOIN", "KEY", "LEFT", "LIKE", "LIMIT", "NOT", "NULL",
   "OFFSET", "ON", "OR", "ORDER", "OUTER", "PRIMARY", "REFERENCES", "RIGHT", "ROWS", "SELECT",
   "SET", "TABLE", "THEN", "TIME", "TIMESTAMP", "TO", "TRUE", "UNION", "UNIQUE", "UPDATE",
   "USER", "USING", "VALUES", "WHEN", "WHERE", "WITH"]

def mysqlReserved : List String :=
  ["DATABASE", "INDEX", "KEYS", "RANGE", "READ", "REPLACE"]

def postgresReserved : List String :=
  ["ANALYSE", "ANALYZE", "ARRAY", "LATERAL", "RETURNING"]

def sqlKeywords : Keywords where
  select := "select"
  distinct := "distinct"
  unique := none
  source := "from"
  filter := "where"
  groupBy := "group by"
  having := "having"
  orderBy := "order by"
  ascending := "asc"
  descending := "desc"
  nullsFirst := some "nulls first"
  nullsLast := some "nulls last"
  join := "join"
  innerJoin := "inner join"
  leftJoin := "left join"
  rightJoin := some "right join"
  fullJoin := some "full join"
  condition := "on"
  variableList := none
  countAll := some "count(*)"
  insertInto := some "insert into"
  values := "values"
  update := some "update"
  assign := "set"
  deleteFrom := "delete from"

def jdoqlKeywords : Keywords where
  select := "SELECT"
  distinct := "DISTINCT"
  unique := some "UNIQUE"
  source := "FROM"
  filter := "WHERE"
  groupBy := "GROUP BY"
  having := "HAVING"
  orderBy := "ORDER BY"
  ascending := "ASC"
  descending := "DESC"
  nullsFirst := none
  nullsLast := none
  join := ""
  innerJoin := ""
  leftJoin := ""
  rightJoin := none
  fullJoin := none
  condition := ""
  variableList := some "VARIABLES"
  countAll := some "count(this)"
  insertInto := none
  values := ""
  update := none
  assign := ""
  deleteFrom := "DELETE FROM"

def sqlLiterals : LiteralForms where
  true := "true"
  false := "false"
  null := "null"
  date := some ⟨"date '", "'"⟩
  time := some ⟨"time '", "'"⟩
  dateTime := some ⟨"timestamp '", "'"⟩
  bytes := some ⟨"x'", "'"⟩
  alwaysTrue := "1 = 1"
  alwaysFalse := "1 = 0"

def ansi : Rules where
  dialect := .ansi
  grammar := .sql
  operators := sqlOperators
  keywords := sqlKeywords
  literals := sqlLiterals
  identifierQuote := some '\x22'
  reserved := sqlReserved
  placeholders := .question
  pagination := .offsetFetch
  likeEscape := some '!'
  clauseBreak := "\n"
  flattensLists := true
  joinsAnyPaths := false

/-- Dialects without full joins and without a position for nulls. -/
def restricted (k : Keywords) : Keywords :=
  { k with fullJoin := none, nullsFirst := none, nullsLast := none }

def derby : Rules :=
  { ansi with
    dialect := .derby
    operators := derbyOperators
    keywords := restricted sqlKeywords
    literals :=
      { sqlLiterals with
        true := "1"
        false := "0"
        date := some ⟨"date('", "')"⟩
        time := some ⟨"time('", "')"⟩
        dateTime := some ⟨"timestamp('", "')"⟩ } }

def mysql : Rules :=
  { ansi with
    dialect := .mysql
    operators := mysqlOperators
    keywords := restricted sqlKeywords
    identifierQuote := some '\x60'
    reserved := sqlReserved ++ mysqlReserved
    pagination := .limitOffset (some Window.largest) }

def postgres : Rules :=
  { ansi with
    dialect := .postgres
    operators := postgresOperators
    reserved := sqlReserved ++ postgresReserved
    placeholders := .dollar
    pagination := .limitOffset none }

def jpql : Rules where
  dialect := .jpql
  grammar := .jpql
  operators := jpqlOperators
  keywords := { sqlKeywords with countAll := none, condition := "with" }
  literals :=
    { sqlLiterals with
      date := some ⟨"\x7bd '", "'\x7d"⟩
      time := some ⟨"\x7bt '", "'\x7d"⟩
      dateTime := some ⟨"\x7bts '", "'\x7d"⟩
      bytes := none }
  identifierQuote := none
  reserved := []
  placeholders := .numberedQuestion
  pagination := .external
  likeEscape := some '!'
  clauseBreak := "\n"
  flattensLists := true
  joinsAnyPaths := true

def jdoql : Rules where
  dialect := .jdoql
  grammar := .jdoql
  operators := jdoqlOperators
  keywords := jdoqlKeywords
  literals :=
    { sqlLiterals with
      date := none
      time := none
      dateTime := none
      bytes := none
      alwaysTrue := "true"
      alwaysFalse := "false" }
  identifierQuote := none
  reserved := []
  placeholders := .named "a"
  pagination := .range
  likeEscape := none
  clauseBreak := "\n"
  flattensLists := false
  joinsAnyPaths := true

def ofDialect : Dialect → Rules
  | .ansi => ansi
  | .derby => derby
  | .mysql => mysql
  | .postgres => postgres
  | .jpql => jpql
  | .jdoql => jdoql

end QueryText.Rules
