import QueryText.Dialect.Presets
import QueryText.Proofs.Reading.Token

namespace QueryText.Reading

/-- The place of an operand, and the text behind it. -/
structure Hole where
  enclosed : Bool
  after : List Char
  deriving DecidableEq

structure Notation where
  op : Operator
  rank : Option Nat
  lead : List Char
  holes : List Hole
  deriving DecidableEq

open Pattern

def textElement : List Char → List Element
  | [] => []
  | c :: t => [.text (c :: t)]

def holeElements (i : Nat) : List Hole → List Element
  | [] => []
  | h :: hs => .slot ⟨i, .bare⟩ h.enclosed :: (textElement h.after ++ holeElements (i + 1) hs)

def leadOf : List Element → List Char
  | .text t :: _ => t
  | _ => []

def holesOf : List Element → List Hole
  | [] => []
  | .text _ :: es => holesOf es
  | .slot _ enclosed :: .text t :: es => ⟨enclosed, t⟩ :: holesOf es
  | .slot _ enclosed :: es => ⟨enclosed, []⟩ :: holesOf es

namespace Notation

def elements (x : Notation) : List Element :=
  textElement x.lead ++ holeElements 0 x.holes

def ofRule (op : Operator) (rule : OperatorRule) : Notation :=
  ⟨op, rule.rank, leadOf rule.pattern.elements, holesOf rule.pattern.elements⟩

/-- The text behind the first operand, of a notation that begins with it. -/
def led (x : Notation) : List Char :=
  (x.holes.head?.map (·.after)).getD []

end Notation

/-- How an operation of that operator is written. -/
def notation? (r : Rules) (op : Operator) : Option Notation :=
  (r.operators op).map (Notation.ofRule op)

theorem of_notation?_eq_some {r : Rules} {op : Operator} {x : Notation} (h : notation? r op = some x) :
    x.op = op ∧ (r.operators op).bind (·.rank) = x.rank := by
  obtain ⟨rule, hrule, rfl⟩ := Option.map_eq_some_iff.mp h
  rw [hrule]
  exact ⟨rfl, rfl⟩

/-- The operators over which expressions are read back. The longer of two calls of one name stands
first. -/
def readOperators : List Operator :=
  [.and, .or, .not, .eq, .ne, .lt, .gt, .le, .ge, .between, .like, .isIn, .notIn, .isNull, .isNotNull,
   .add, .sub, .mul, .div, .mod, .negate, .concat, .lower, .upper, .trim, .length, .abs, .sqrt,
   .countDistinct, .count, .sum, .avg, .min, .max]

/-- The dialects whose expressions are read back. -/
def readDialects : List Dialect :=
  [.ansi, .derby, .mysql, .postgres, .jpql]

/-- The notations that the rules have. -/
def table (r : Rules) : List Notation :=
  readOperators.filterMap (notation? r)

/-- Operators that may be regrouped: concatenation only where it is written between its operands. -/
def regroups (r : Rules) : Operator → Bool
  | .and | .or | .add | .mul => true
  | .concat => (notation? r .concat).any (·.lead = [])
  | _ => false

theorem isAssociative_of_regroups {r : Rules} {op : Operator} (h : regroups r op) : op.isAssociative := by
  cases op <;> first | rfl | simp [regroups] at h

/-- The largest rank that an operator may have in some place, if there is one. -/
abbrev Limit := Option Nat

def allowed : Option Nat → Limit → Bool
  | some rank, some limit => rank ≤ limit
  | _, _ => true

/-- What may stand at a position of a notation of that rank: at the first one operators of the same
rank too, so that they lean to the left. -/
def limitAt (rank : Option Nat) (position : Nat) (enclosed : Bool) : Limit :=
  if enclosed then none
  else
    match rank with
    | none => some 0
    | some k => if position = 0 then some k else some (k - 1)

end QueryText.Reading
