namespace QueryText

structure Window where
  limit : Option UInt64
  offset : Option UInt64
  deriving DecidableEq

namespace Window

def unrestricted : Window :=
  ⟨none, none⟩

def ofLimit (n : UInt64) : Window :=
  ⟨some n, none⟩

def ofOffset (n : UInt64) : Window :=
  ⟨none, some n⟩

def withLimit (w : Window) (n : UInt64) : Window :=
  { w with limit := some n }

def withOffset (w : Window) (n : UInt64) : Window :=
  { w with offset := some n }

def isRestricting (w : Window) : Bool :=
  w.limit.isSome || w.offset.isSome

def largest : UInt64 :=
  UInt64.ofNat (UInt64.size - 1)

def saturatingAdd (a b : UInt64) : UInt64 :=
  if a.toNat + b.toNat < UInt64.size then a + b else largest

theorem toNat_saturatingAdd (a b : UInt64) :
    (saturatingAdd a b).toNat = min (a.toNat + b.toNat) (UInt64.size - 1) := by
  unfold saturatingAdd
  split
  · next h =>
    rw [UInt64.toNat_add, Nat.mod_eq_of_lt h]
    omega
  · have hlargest : largest.toNat = UInt64.size - 1 := by decide
    omega

def stop? (w : Window) : Option UInt64 :=
  w.limit.map fun n => saturatingAdd (w.offset.getD 0) n

end Window

end QueryText
