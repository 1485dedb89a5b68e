import QueryText.Value.Basic

namespace QueryText

/-- A place for a value given later. The number alone makes its identity. -/
structure Param where
  id : Nat
  name : String
  kind : Kind

namespace Param

instance : BEq Param := ⟨fun a b => a.id == b.id⟩

def anonymous (id : Nat) (kind : Kind) : Param :=
  ⟨id, "param" ++ toString id, kind⟩

def label (p : Param) : String :=
  p.name ++ " (#" ++ toString p.id ++ ")"

def spelling (p : Param) : String :=
  "Param(" ++ p.name ++ " #" ++ toString p.id ++ ")"

end Param

theorem lookup_cons_ite {α β : Type} [BEq α] [LawfulBEq α] [DecidableEq α] (y : α) (e : α × β)
    (es : List (α × β)) : (e :: es).lookup y = if y = e.1 then some e.2 else es.lookup y := by
  rw [List.lookup_cons]
  by_cases h : y = e.1
  · rw [if_pos h, beq_iff_eq.mpr h]
  · rw [if_neg h, beq_eq_false_iff_ne.mpr h]

structure ParamMap where
  entries : List (Nat × Value)

namespace ParamMap

instance : BEq ParamMap := ⟨fun a b => a.entries == b.entries⟩

def empty : ParamMap :=
  ⟨[]⟩

/-- Sets the entry of `id`, before the entries of larger numbers. -/
def insertEntry (id : Nat) (v : Value) : List (Nat × Value) → List (Nat × Value)
  | [] => [(id, v)]
  | e :: es =>
    if id < e.1 then (id, v) :: e :: es
    else if id == e.1 then (id, v) :: es
    else e :: insertEntry id v es

def insert (m : ParamMap) (p : Param) (v : Value) : ParamMap :=
  ⟨insertEntry p.id v m.entries⟩

def get? (m : ParamMap) (p : Param) : Option Value :=
  m.entries.lookup p.id

def contains (m : ParamMap) (p : Param) : Bool :=
  (m.get? p).isSome

def size (m : ParamMap) : Nat :=
  m.entries.length

def isEmpty (m : ParamMap) : Bool :=
  m.entries.isEmpty

end ParamMap

end QueryText
