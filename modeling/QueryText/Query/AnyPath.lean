import QueryText.Expr.Basic

namespace QueryText.Query.AnyPath

/-- A node, the collection that it takes an element of, and the variable for that element. -/
structure Replacement where
  node : Path
  collection : Path
  element : Path
  deriving DecidableEq

/-- The number of the next variable, and the replacements so far. -/
structure Replacements where
  next : Nat
  made : List Replacement

namespace Replacements

def element? (s : Replacements) (node : Path) : Option Path :=
  (s.made.find? (·.node == node)).map (·.element)

def elementName (collection : Path) (number : Nat) : String :=
  String.ofList (collection.dotted.toList.map fun c => if c == '.' then '_' else c)
    ++ "_" ++ toString number

def make (s : Replacements) (node collection : Path) : Path × Replacements :=
  let element := Path.root (elementName collection s.next) node.kind
  (element, ⟨s.next + 1, s.made ++ [⟨node, collection, element⟩]⟩)

end Replacements

def replacePath : Path → Replacements → Path × Replacements
  | .root n k, s => (.root n k, s)
  | .child p n r k, s =>
    if r = .anyElement then
      match s.element? (.child p n r k) with
      | some v => (v, s)
      | none =>
        let (c, s) := replacePath p s
        s.make (.child p n r k) c
    else
      let (q, s) := replacePath p s
      (.child q n r k, s)

mutual

/-- Replaces the nodes of every path outside sub-queries, from left to right. -/
def replace : Expr → Replacements → Expr × Replacements
  | .path p, s =>
    let (q, s) := replacePath p s
    (.path q, s)
  | .operation op args, s =>
    let (args, s) := replaceAll args s
    (.operation op args, s)
  | .custom f args, s =>
    let (args, s) := replaceAll args s
    (.custom f args, s)
  | .constant v, s => (.constant v, s)
  | .param p, s => (.param p, s)
  | .subQuery q, s => (.subQuery q, s)

def replaceAll : List Expr → Replacements → List Expr × Replacements
  | [], s => ([], s)
  | e :: es, s =>
    let (e, s) := replace e s
    let (es, s) := replaceAll es s
    (e :: es, s)

end

def Replacement.join (r : Replacement) : Join Expr :=
  .of .inner (.aliased (.path r.collection) r.element)

/-- A condition without such nodes, the replacements made in it, and the number for the next variable. -/
structure Normalized where
  condition : Expr
  replaced : List Replacement
  next : Nat

def Normalized.joins (n : Normalized) : List (Join Expr) :=
  n.replaced.map (·.join)

def normalize (e : Expr) (next : Nat) : Normalized :=
  let (condition, s) := replace e ⟨next, []⟩
  ⟨condition, s.made, s.next⟩

end QueryText.Query.AnyPath
