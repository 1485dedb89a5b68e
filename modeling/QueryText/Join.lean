import QueryText.Text.Blank

namespace QueryText

inductive JoinKind where
  | plain
  | join
  | inner
  | left
  | right
  | full
  deriving DecidableEq

namespace JoinKind

def all : List JoinKind :=
  [plain, join, inner, left, right, full]

def name : JoinKind → String
  | plain => "DEFAULT"
  | join => "JOIN"
  | inner => "INNERJOIN"
  | left => "LEFTJOIN"
  | right => "RIGHTJOIN"
  | full => "FULLJOIN"

end JoinKind

/-- Text written before and after a join's target. The number alone makes a flag's identity. -/
structure JoinFlag where
  id : Nat
  before : String
  after : String

namespace JoinFlag

instance : BEq JoinFlag := ⟨fun a b => a.id == b.id⟩

def fetch : JoinFlag :=
  ⟨1, "fetch ", ""⟩

def fetchAllProperties : JoinFlag :=
  ⟨2, "", " fetch all properties"⟩

def firstFreeId : Nat :=
  16

def compare (a b : JoinFlag) : Ordering :=
  Ord.compare a.id b.id

def label (f : JoinFlag) : String :=
  Text.Blank.trim f.before ++ Text.Blank.trim f.after

/-- Adds a flag to a list in ascending order; a flag that is there already stays as it is. -/
def insertInto (f : JoinFlag) : List JoinFlag → List JoinFlag
  | [] => [f]
  | g :: gs =>
    if f.id < g.id then f :: g :: gs
    else if f == g then g :: gs
    else g :: insertInto f gs

end JoinFlag

/-- One entry, over expressions of type `α`. Its flags are in ascending order. -/
structure Join (α : Type) where
  kind : JoinKind
  target : α
  condition : Option α
  flags : List JoinFlag

namespace Join

variable {α : Type}

def of (kind : JoinKind) (target : α) : Join α :=
  ⟨kind, target, none, []⟩

def addFlag (j : Join α) (f : JoinFlag) : Join α :=
  { j with flags := f.insertInto j.flags }

def hasFlag (j : Join α) (f : JoinFlag) : Bool :=
  j.flags.contains f

end Join

end QueryText
