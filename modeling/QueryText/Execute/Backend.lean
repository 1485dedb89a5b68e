import QueryText.Error
import QueryText.Window

namespace QueryText.Execute

/-- Rows of a result, or the number of rows that a statement changed. -/
inductive Outcome where
  | rows (rs : List (List Value))
  | affected (n : UInt64)

namespace Outcome

def toRows : Outcome → List (List Value)
  | rows rs => rs
  | affected _ => []

def count : Outcome → UInt64
  | rows rs => UInt64.ofNat rs.length
  | affected n => n

end Outcome

/-- A slot, or a number of slots: a word that wraps around. -/
abbrev SlotCount :=
  Fin UInt64.size

-- Ahead of the other ways to see this, so that a numeral is the same term wherever it is written.
instance (priority := 2000) SlotCount.neZero : @NeZero Nat Zero.ofOfNat0 UInt64.size :=
  ⟨Nat.succ_ne_zero _⟩

instance SlotCount.ofNat : Coe Nat SlotCount :=
  ⟨Fin.ofNat UInt64.size⟩

/-- A backend with states of type `σ`. Binding tells how many slots the value took. -/
structure Backend (σ : Type) where
  prepare : String → σ → Except ExecutorError Unit × σ
  setRange : Window → σ → Except ExecutorError Unit × σ
  bind : SlotCount → Option Path → Value → σ → Except CoercionError SlotCount × σ
  execute : σ → Except ExecutorError Outcome × σ
  close : σ → Except ExecutorError Unit × σ

end QueryText.Execute
