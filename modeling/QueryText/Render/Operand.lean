import QueryText.Dialect.Literal
import QueryText.Expr.Basic
import QueryText.Render.Chunk

namespace QueryText.Render

/-- An expression, the way it is written, and its arguments. -/
structure Operand where
  expr : Expr
  write : Writer
  args : List Operand

namespace Operand

def slots (v : Value) : Writer := fun c =>
  match v with
  | .list items =>
    if c.rules.flattensLists then
      Writer.parenthesized
        (Writer.separated ", " (items.map fun v c => .ok [.slot (.value v) c.compared])) c
    else .ok [.slot (.value v) c.compared]
  | _ => .ok [.slot (.value v) c.compared]

/-- A preview shows the literal, and the spelling of a value that has none. -/
def previewText (r : Rules) (v : Value) : String :=
  match r.literal v with
  | .ok s => s
  | .error _ => v.spelling

def writeValue (v : Value) : Writer := fun c =>
  match c.mode with
  | .preview => .ok [.text (previewText c.rules v)]
  | _ =>
    if c.inlining then
      match c.rules.literal v with
      | .ok s => .ok [.text s]
      | .error e => .error e
    else slots v c

def constant (v : Value) : Operand :=
  ⟨.constant v, writeValue v, []⟩

/-- The name of a root is `this` for the candidate; without sources, a column stands alone. -/
def pathText (c : Context) : Path → String
  | .root n k => if c.candidate = some (.root n k) then "this" else c.rules.identifier n
  | .child p n _ _ =>
    if c.bareColumns && p.isRoot then c.rules.identifier n
    else pathText c p ++ "." ++ c.rules.identifier n

def writePath (p : Path) : Writer := fun c =>
  if p.throughAny && c.mode != .preview then c.rules.unsupported (.anyPath p)
  else .ok [.text (pathText c p)]

def path (p : Path) : Operand :=
  ⟨.path p, writePath p, []⟩

def writeParam (p : Param) : Writer := fun c =>
  match c.mode, c.resolve p with
  | .resolving, some v => writeValue v c
  | .resolving, none => .error (.parameterNotSet p)
  | .deferring, some (.list items) => writeValue (.list items) c
  | .deferring, none =>
    if p.kind.isCollection then .error (.parameterNotSet p)
    else .ok [.slot (.param p) c.compared]
  | .deferring, some _ => .ok [.slot (.param p) c.compared]
  | .preview, some v => writeValue v c
  | .preview, none => .ok [.text (":" ++ p.name)]

def param (p : Param) : Operand :=
  ⟨.param p, writeParam p, []⟩

/-- The operand needs parentheses at that position of an operation of that rank. -/
def needsParentheses (r : Rules) (parent : Operator) (rank : Option Nat) (position : Nat)
    (enclosed : Bool) (arg : Expr) : Bool :=
  if enclosed || arg.isAtomic then false
  else if parent = .not then true
  else
    match arg with
    | .custom f _ => !f.pattern.isCall
    | .operation child _ =>
      match (r.operators child).bind (·.rank), rank with
      | none, _ => false
      | some _, none => true
      | some inner, some outer =>
        outer < inner ||
          inner = outer && (child != parent || position > 0 && !parent.isAssociative)
    | _ => false

def isEmptyList (c : Context) : Expr → Bool
  | .constant v => v.isEmptyList
  | .param p => ((c.resolve p).map (·.isEmptyList)).getD false
  | _ => false

/-- Membership in an empty list is settled without looking at the list. -/
def emptyMembership? (c : Context) (op : Operator) (args : List Operand) : Option String :=
  if ((args[1]?).map fun a => isEmptyList c a.expr).getD false then
    match op with
    | .isIn => some c.rules.literals.alwaysFalse
    | .notIn => some c.rules.literals.alwaysTrue
    | _ => none
  else none

theorem emptyMembership?_eq_some {c : Context} {op : Operator} {args : List Operand} {s : String}
    (h : emptyMembership? c op args = some s) :
    op = .isIn ∧ s = c.rules.literals.alwaysFalse ∨ op = .notIn ∧ s = c.rules.literals.alwaysTrue := by
  unfold emptyMembership? at h
  split at h
  · split at h
    · exact .inl ⟨rfl, (Option.some.inj h).symm⟩
    · exact .inr ⟨rfl, (Option.some.inj h).symm⟩
    · cases h
  · cases h

theorem emptyMembership?_eq_none {op : Operator} (h : op ≠ .isIn ∧ op ≠ .notIn) (c : Context)
    (args : List Operand) : emptyMembership? c op args = none := by
  cases hs : emptyMembership? c op args with
  | none => rfl
  | some s =>
    obtain ⟨hop, -⟩ | ⟨hop, -⟩ := emptyMembership?_eq_some hs
    · exact absurd hop h.1
    · exact absurd hop h.2

/-- The text of an operand that wildcards can be put around directly. -/
def knownText? (c : Context) : Expr → Option String
  | .constant v => v.text?
  | .param p => if c.mode = .deferring then none else (c.resolve p).bind (·.text?)
  | _ => none

/-- The type operand of a type test: the qualified name where types are written in full. -/
def writeType (arg : Expr) : Writer := fun c =>
  match arg.path?.bind (·.entity?) with
  | none => c.rules.unsupported .untypedInstance
  | some e =>
    match c.rules.grammar with
    | .jdoql => .ok [.text e.typeName]
    | _ => .ok [.text e.simpleName]

def percent : Operand :=
  constant (.text "%")

def withWildcards (concat : Operand → Operand → Operand) (a : Affix) (arg : Operand) : Operand :=
  match a with
  | .bare => arg
  | .leading => concat percent arg
  | .trailing => concat arg percent
  | .both => concat (concat percent arg) percent

/-- An argument in a slot that wants wildcards. A known text is escaped and gets them at once; any
other operand is handed, wildcards around it, to `other`. -/
def writeAffixed (concat : Operand → Operand → Operand) (a : Affix) (arg : Operand)
    (other : Operand → Writer) : Writer := fun c =>
  if a = .bare then other arg c
  else
    match knownText? c arg.expr with
    | some s => writeValue (.text (a.apply (c.rules.escapeLike s))) c
    | none => other (withWildcards concat a arg) c

def writeGrouped (op : Operator) (rank : Option Nat) (position : Nat) (enclosed : Bool)
    (arg : Operand) : Writer := fun c =>
  if needsParentheses c.rules op rank position enclosed arg.expr then
    Writer.parenthesized arg.write c
  else arg.write c

def writeElement (concat : Operand → Operand → Operand) (op : Operator) (rank : Option Nat)
    (args : List Operand) : Pattern.Element → Writer
  | .text t => Writer.text (String.ofList t)
  | .slot s enclosed =>
    match args[s.index]? with
    | none => Writer.unsupported (.operatorSlot s.index op)
    | some arg =>
      if op = .instanceOf && s.index = 1 then writeType arg.expr
      else writeAffixed concat s.affix arg (writeGrouped op rank s.index enclosed)

/-- The values in an operation are compared with its first argument, when that is a path. -/
def comparing (args : List Operand) (c : Context) : Context :=
  match args.head?.bind (·.expr.path?) with
  | some p => { c with compared := some p }
  | none => c

theorem comparing_eq (args : List Operand) (c : Context) :
    ∃ p, comparing args c = { c with compared := p } := by
  unfold comparing
  split
  · exact ⟨_, rfl⟩
  · exact ⟨c.compared, rfl⟩

def writeOperation (concat : Operand → Operand → Operand) (op : Operator) (args : List Operand) :
    Writer := fun c =>
  match emptyMembership? c op args with
  | some s => .ok [.text s]
  | none =>
    match c.rules.require op with
    | .error e => .error e
    | .ok rule =>
      Writer.all (rule.pattern.elements.map (writeElement concat op rule.rank args)) (comparing args c)

def operationTo (depth : Nat) (op : Operator) (args : List Operand) : Operand :=
  let expr := Expr.operation op (args.map (·.expr))
  match depth with
  | 0 => ⟨expr, Writer.unsupported (.operator op), args⟩
  | depth + 1 => ⟨expr, writeOperation (fun a b => operationTo depth .concat [a, b]) op args, args⟩

/-- A pattern for concatenation may itself ask for wildcards around an operand, and so on. There are
three ways to ask; a longer chain repeats one of them and would have no end. -/
def wildcardDepth : Nat :=
  6

def operation (op : Operator) (args : List Operand) : Operand :=
  operationTo wildcardDepth op args

def concat (a b : Operand) : Operand :=
  operation .concat [a, b]

/-- One element of a custom pattern. Only an operand with wildcards is grouped. -/
def writeCustomElement (f : Fragment) (args : List Operand) : Pattern.Element → Writer
  | .text t => Writer.text (String.ofList t)
  | .slot s _ =>
    match args[s.index]? with
    | none => Writer.unsupported (.customSlot s.index f.pattern)
    | some arg =>
      writeAffixed concat s.affix arg fun a =>
        if s.affix = .bare then a.write else Writer.parenthesized a.write

def custom (f : Fragment) (args : List Operand) : Operand where
  expr := .custom f (args.map (·.expr))
  args := args
  write := fun c =>
    if f.supports c.rules.dialect then
      Writer.all (f.pattern.elements.map (writeCustomElement f args)) c
    else c.rules.unsupported (.custom f.pattern)

end Operand

end QueryText.Render
