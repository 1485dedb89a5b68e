import QueryText.Error
import QueryText.Expr.Basic

namespace QueryText.Expr

def operation? (op : Operator) (args : List Expr) : Except QueryError Expr :=
  if args.length = op.arity then .ok (operation op args)
  else .error (.operatorArity op args.length)

def not (a : Expr) : Expr := operation .not [a]

def or (a b : Expr) : Expr := operation .or [a, b]

def eq (a b : Expr) : Expr := operation .eq [a, b]

def ne (a b : Expr) : Expr := operation .ne [a, b]

def lt (a b : Expr) : Expr := operation .lt [a, b]

def gt (a b : Expr) : Expr := operation .gt [a, b]

def le (a b : Expr) : Expr := operation .le [a, b]

def ge (a b : Expr) : Expr := operation .ge [a, b]

def between (a low high : Expr) : Expr := operation .between [a, low, high]

def like (a pattern : Expr) : Expr := operation .like [a, pattern]

def isIn (a b : Expr) : Expr := operation .isIn [a, b]

def notIn (a b : Expr) : Expr := operation .notIn [a, b]

def inList (a : Expr) (values : List Value) : Expr := a.isIn (constant (.list values))

def notInList (a : Expr) (values : List Value) : Expr := a.notIn (constant (.list values))

def isNull (a : Expr) : Expr := operation .isNull [a]

def isNotNull (a : Expr) : Expr := operation .isNotNull [a]

def startsWith (a b : Expr) : Expr := operation .startsWith [a, b]

def endsWith (a b : Expr) : Expr := operation .endsWith [a, b]

/-- A test for a part: an element where `a` is a collection, a substring elsewhere. -/
def contains (a b : Expr) : Expr :=
  if a.kind.isCollection then b.isIn a else operation .containsText [a, b]

def concat (a b : Expr) : Expr := operation .concat [a, b]

def lower (a : Expr) : Expr := operation .lower [a]

def upper (a : Expr) : Expr := operation .upper [a]

def trim (a : Expr) : Expr := operation .trim [a]

def length (a : Expr) : Expr := operation .length [a]

def substringFrom (a start : Expr) : Expr := operation .substringFrom [a, start]

/-- The text from one position up to another one, which is excluded. -/
def substringBetween (a start stop : Expr) : Expr := operation .substringBetween [a, start, stop]

def indexOf (a needle : Expr) : Expr := operation .indexOf [a, needle]

def add (a b : Expr) : Expr := operation .add [a, b]

def sub (a b : Expr) : Expr := operation .sub [a, b]

def mul (a b : Expr) : Expr := operation .mul [a, b]

def div (a b : Expr) : Expr := operation .div [a, b]

def mod (a b : Expr) : Expr := operation .mod [a, b]

def negate (a : Expr) : Expr := operation .negate [a]

def abs (a : Expr) : Expr := operation .abs [a]

def sqrt (a : Expr) : Expr := operation .sqrt [a]

def count (a : Expr) : Expr := operation .count [a]

def countDistinct (a : Expr) : Expr := operation .countDistinct [a]

def sum (a : Expr) : Expr := operation .sum [a]

def avg (a : Expr) : Expr := operation .avg [a]

def min (a : Expr) : Expr := operation .min [a]

def max (a : Expr) : Expr := operation .max [a]

def isEmpty (a : Expr) : Expr := operation .isEmpty [a]

def isNotEmpty (a : Expr) : Expr := operation .isNotEmpty [a]

def size (a : Expr) : Expr := operation .size [a]

/-- A test of the run-time type. The entity stands as a path named after it. -/
def instanceOf (a : Expr) (e : Entity) : Expr :=
  operation .instanceOf [a, path (.source e e.simpleName)]

def existsIn (q : Select Expr) : Expr := operation .existsIn [subQuery q]

end QueryText.Expr
