import QueryText.Value.Kind

namespace QueryText

inductive Operator where
  | and | or | not
  | eq | ne | lt | gt | le | ge | between | like | isIn | notIn | isNull | isNotNull
  | existsIn
  | add | sub | mul | div | mod | negate
  | concat | lower | upper | trim | length | substringFrom | substringBetween | startsWith
  | endsWith | containsText | indexOf
  | abs | sqrt
  | count | countDistinct | sum | avg | min | max
  | isEmpty | isNotEmpty | size
  | instanceOf
  | asAlias
  deriving DecidableEq

namespace Operator

def all : List Operator :=
  [.and, .or, .not, .eq, .ne, .lt, .gt, .le, .ge, .between, .like, .isIn, .notIn, .isNull,
   .isNotNull, .existsIn, .add, .sub, .mul, .div, .mod, .negate, .concat, .lower, .upper,
   .trim, .length, .substringFrom, .substringBetween, .startsWith, .endsWith, .containsText,
   .indexOf, .abs, .sqrt, .count, .countDistinct, .sum, .avg, .min, .max, .isEmpty,
   .isNotEmpty, .size, .instanceOf, .asAlias]

theorem mem_all (op : Operator) : op ∈ all := by
  cases op <;> decide

def name : Operator → String
  | and => "And"
  | or => "Or"
  | not => "Not"
  | eq => "Eq"
  | ne => "Ne"
  | lt => "Lt"
  | gt => "Gt"
  | le => "Loe"
  | ge => "Goe"
  | between => "Between"
  | like => "Like"
  | isIn => "In"
  | notIn => "NotIn"
  | isNull => "IsNull"
  | isNotNull => "IsNotNull"
  | existsIn => "Exists"
  | add => "Add"
  | sub => "Sub"
  | mul => "Mul"
  | div => "Div"
  | mod => "Mod"
  | negate => "Negate"
  | concat => "Concat"
  | lower => "Lower"
  | upper => "Upper"
  | trim => "Trim"
  | length => "Length"
  | substringFrom => "Substr1"
  | substringBetween => "Substr2"
  | startsWith => "StartsWith"
  | endsWith => "EndsWith"
  | containsText => "StringContains"
  | indexOf => "IndexOf"
  | abs => "Abs"
  | sqrt => "Sqrt"
  | count => "Count"
  | countDistinct => "CountDistinct"
  | sum => "Sum"
  | avg => "Avg"
  | min => "Min"
  | max => "Max"
  | isEmpty => "IsEmpty"
  | isNotEmpty => "IsNotEmpty"
  | size => "Size"
  | instanceOf => "InstanceOf"
  | asAlias => "Alias"

def arity : Operator → Nat
  | not | isNull | isNotNull | existsIn | negate | lower | upper | trim | length | abs | sqrt
  | count | countDistinct | sum | avg | min | max | isEmpty | isNotEmpty | size => 1
  | between | substringBetween => 3
  | _ => 2

def isAssociative : Operator → Bool
  | and | or | add | mul | concat => true
  | _ => false

def isPredicate : Operator → Bool
  | and | or | not | eq | ne | lt | gt | le | ge | between | like | isIn | notIn | isNull
  | isNotNull | existsIn | startsWith | endsWith | containsText | isEmpty | isNotEmpty
  | instanceOf => true
  | _ => false

def resultKind (op : Operator) (first : Kind) : Kind :=
  if op.isPredicate then .bool
  else
    match op with
    | concat | lower | upper | trim | substringFrom | substringBetween => .text
    | length | indexOf | count | countDistinct | size => .int
    | avg | sqrt => .float
    | _ => first

end Operator

end QueryText
