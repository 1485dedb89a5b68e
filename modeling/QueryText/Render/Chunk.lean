import QueryText.Dialect.Rules

namespace QueryText

/-- Where the value of a slot comes from: it is known, or it is looked up when slots are bound. -/
inductive Binding where
  | value (v : Value)
  | param (p : Param)

namespace Binding

instance : BEq Binding :=
  ⟨fun
    | value a, value b => a == b
    | param a, param b => a == b
    | _, _ => false⟩

end Binding

namespace Render

/-- A slot remembers the path that its value is compared with, when there is one. -/
inductive Chunk where
  | text (s : String)
  | slot (b : Binding) (path : Option Path)

namespace Chunk

/-- The text of chunks, where `slot` is the number of the first slot among them. -/
def textFrom (r : Rules) (slot : Nat) : List Chunk → String
  | [] => ""
  | .text s :: cs => s ++ textFrom r slot cs
  | .slot _ _ :: cs => r.placeholder slot ++ textFrom r (slot + 1) cs

def fullText (r : Rules) (cs : List Chunk) : String :=
  textFrom r 1 cs

def bindings : List Chunk → List Binding
  | [] => []
  | .text _ :: cs => bindings cs
  | .slot b _ :: cs => b :: bindings cs

def paths : List Chunk → List (Option Path)
  | [] => []
  | .text _ :: cs => paths cs
  | .slot _ p :: cs => p :: paths cs

@[simp] theorem bindings_append (xs ys : List Chunk) :
    bindings (xs ++ ys) = bindings xs ++ bindings ys := by
  induction xs with
  | nil => rfl
  | cons c cs ih => cases c <;> simp [bindings, ih]

@[simp] theorem paths_append (xs ys : List Chunk) : paths (xs ++ ys) = paths xs ++ paths ys := by
  induction xs with
  | nil => rfl
  | cons c cs ih => cases c <;> simp [paths, ih]

theorem length_paths (cs : List Chunk) : (paths cs).length = (bindings cs).length := by
  induction cs with
  | nil => rfl
  | cons c cs ih => cases c <;> simp [bindings, paths, ih]

theorem textFrom_append (r : Rules) (slot : Nat) (xs ys : List Chunk) :
    textFrom r slot (xs ++ ys) =
      textFrom r slot xs ++ textFrom r (slot + (bindings xs).length) ys := by
  induction xs generalizing slot with
  | nil => simp [textFrom, bindings]
  | cons c cs ih =>
    cases c with
    | text s => simp [textFrom, bindings, ih, String.append_assoc]
    | slot b p =>
      simp [textFrom, bindings, ih, String.append_assoc, Nat.add_assoc, Nat.add_comm 1]

end Chunk

inductive Mode where
  /-- their values are known now -/
  | resolving
  /-- their values follow when slots are bound -/
  | deferring
  /-- a best effort for display -/
  | preview
  deriving DecidableEq

structure Context where
  rules : Rules
  mode : Mode
  /-- values are written into the text -/
  inlining : Bool
  /-- values of the enclosing queries, the innermost first -/
  scopes : List ParamMap
  /-- the path that values are compared with -/
  compared : Option Path
  /-- the source that is written as `this` -/
  candidate : Option Path
  /-- columns are written without their source -/
  bareColumns : Bool
  /-- inside a sub-query -/
  nested : Bool

namespace Context

def of (r : Rules) (mode : Mode) (inlining : Bool) (scopes : List ParamMap) : Context :=
  { rules := r, mode, inlining, scopes, compared := none, candidate := none, bareColumns := false
    nested := false }

/-- The value of a parameter in the innermost query that binds it. -/
def resolve (c : Context) (p : Param) : Option Value :=
  c.scopes.findSome? (·.get? p)

def inside (c : Context) (params : ParamMap) : Context :=
  { c with scopes := params :: c.scopes, candidate := none, nested := true }

end Context

abbrev Writer := Context → Except QueryError (List Chunk)

namespace Writer

def text (s : String) : Writer :=
  fun _ => .ok [.text s]

def nothing : Writer :=
  fun _ => .ok []

def fail (e : QueryError) : Writer :=
  fun _ => .error e

def unsupported (k : Construct) : Writer :=
  fun c => c.rules.unsupported k

def andThen (a b : Writer) : Writer := fun c =>
  match a c with
  | .error e => .error e
  | .ok xs =>
    match b c with
    | .error e => .error e
    | .ok ys => .ok (xs ++ ys)

instance : Append Writer := ⟨andThen⟩

def all : List Writer → Writer
  | [] => nothing
  | w :: ws => w ++ all ws

def separated (separator : String) : List Writer → Writer
  | [] => nothing
  | [w] => w
  | w :: ws => w ++ text separator ++ separated separator ws

def when (b : Bool) (w : Writer) : Writer :=
  if b then w else nothing

def byRules (w : Rules → Writer) : Writer :=
  fun c => w c.rules c

def lift (f : Rules → Except QueryError Writer) : Writer := fun c =>
  match f c.rules with
  | .error e => .error e
  | .ok w => w c

def clauseBreak : Writer :=
  byRules fun r => text r.clauseBreak

def identifier (name : String) : Writer :=
  byRules fun r => text (r.identifier name)

def parenthesized (w : Writer) : Writer :=
  text "(" ++ w ++ text ")"

end Writer

end Render

end QueryText
