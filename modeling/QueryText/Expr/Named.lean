import QueryText.Expr.Operations

namespace QueryText.Expr

def unary : List (String × (Expr → Expr)) :=
  [("not", not), ("is_null", isNull), ("is_not_null", isNotNull), ("lower", lower),
   ("upper", upper), ("trim", trim), ("length", length), ("neg", negate), ("abs", abs),
   ("sqrt", sqrt), ("count", count), ("count_distinct", countDistinct), ("sum", sum),
   ("avg", avg), ("min", min), ("max", max), ("is_empty", isEmpty),
   ("is_not_empty", isNotEmpty), ("size", size)]

def binary : List (String × (Expr → Expr → Expr)) :=
  [("and", and), ("or", or), ("eq", eq), ("ne", ne), ("lt", lt), ("gt", gt), ("loe", le),
   ("goe", ge), ("like", like), ("in_expr", isIn), ("not_in_expr", notIn),
   ("starts_with", startsWith), ("ends_with", endsWith), ("contains", contains),
   ("concat", concat), ("substring", substringFrom), ("index_of", indexOf), ("add", add),
   ("sub", sub), ("mul", mul), ("div", div), ("rem", mod)]

def ternary : List (String × (Expr → Expr → Expr → Expr)) :=
  [("between", between), ("substring_range", substringBetween)]

/-- The operation of that name on that many arguments, if there is one. -/
def call? (name : String) : List Expr → Option Expr
  | [a] => (unary.lookup name).map (· a)
  | [a, b] => (binary.lookup name).map (· a b)
  | [a, b, c] => (ternary.lookup name).map (· a b c)
  | _ => none

end QueryText.Expr
