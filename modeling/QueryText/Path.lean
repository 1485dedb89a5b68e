import QueryText.Value.Kind

namespace QueryText

inductive Path.Role where
  | root
  | property
  /-- any element of the collection before it -/
  | anyElement
  deriving DecidableEq

def Path.Role.name : Path.Role → String
  | root => "Variable"
  | property => "Property"
  | anyElement => "CollectionAny"

inductive Path where
  | root (name : String) (kind : Kind)
  | child (parent : Path) (name : String) (role : Path.Role) (kind : Kind)
  deriving DecidableEq

namespace Path

def source (e : Entity) (name : String) : Path :=
  root name (.entity e)

def property (p : Path) (name : String) (kind : Kind) : Path :=
  child p name .property kind

def collection (p : Path) (name : String) (element : Kind) : Path :=
  p.property name (.collection element)

def name : Path → String
  | root n _ => n
  | child _ n _ _ => n

def kind : Path → Kind
  | root _ k => k
  | child _ _ _ k => k

def role : Path → Role
  | root _ _ => .root
  | child _ _ r _ => r

def parent? : Path → Option Path
  | root _ _ => none
  | child p _ _ _ => some p

def anyElement (p : Path) : Path :=
  child p "any" .anyElement (p.kind.element?.getD .any)

def entity? (p : Path) : Option Entity :=
  p.kind.entity?

def isRoot (p : Path) : Bool :=
  p.parent?.isNone

def rootEntity? : Path → Option Entity
  | root _ k => k.entity?
  | child _ _ _ _ => none

def rootVariable : Path → Path
  | root n k => root n k
  | child p _ _ _ => p.rootVariable

def depth : Path → Nat
  | root _ _ => 0
  | child p _ _ _ => p.depth + 1

def throughAny : Path → Bool
  | root _ _ => false
  | child p _ r _ => r == .anyElement || p.throughAny

def withParent (p parent : Path) : Path :=
  child parent p.name p.role p.kind

def withName : Path → String → Path
  | root _ k, n => root n k
  | child p _ r k, n => child p n r k

def names : Path → List String
  | root n _ => [n]
  | child p n _ _ => p.names ++ [n]

def dotted : Path → String
  | root n _ => n
  | child p n _ _ => p.dotted ++ "." ++ n

theorem length_names (p : Path) : p.names.length = p.depth + 1 := by
  induction p with
  | root n k => rfl
  | child p n r k ih => simp [names, depth, ih]

def spelling (p : Path) : String :=
  "Path(" ++ p.dotted ++ ": " ++ p.kind.name ++ ")"

end Path

end QueryText
