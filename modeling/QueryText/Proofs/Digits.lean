import QueryText.Calendar
import QueryText.Decimal.Digits

namespace QueryText.Decimal.Digits

variable {ds rest : List Char} {n : Nat}

def readNat (cs : List Char) : Nat × List Char :=
  (number (split cs).1, (split cs).2)

def readInt : List Char → Int × List Char
  | '-' :: cs => (-((readNat cs).1 : Int), (readNat cs).2)
  | '+' :: cs => (((readNat cs).1 : Int), (readNat cs).2)
  | cs => (((readNat cs).1 : Int), (readNat cs).2)

structure Spells (ds : List Char) (n : Nat) : Prop where
  ne_nil : ds ≠ []
  digits : ∀ c ∈ ds, c.isDigit = true
  number_eq : number ds = n

theorem spells_toDigits (n : Nat) : Spells (Nat.toDigits 10 n) n where
  ne_nil := Nat.toDigits_ne_nil
  digits _ hc := Nat.isDigit_of_mem_toDigits (by decide) (by decide) hc
  number_eq := Nat.ofDigitChars_ten_toDigits

theorem spells_padded (width n : Nat) : Spells (Calendar.padded width n).toList n := by
  have h := spells_toDigits n
  rw [Calendar.padded, String.toList_ofList]
  refine ⟨by simp [h.ne_nil], fun c hc => ?_, ?_⟩
  · obtain hc | hc := List.mem_append.mp hc
    · rw [(List.mem_replicate.mp hc).2]
      decide
    · exact h.digits c hc
  · change Nat.ofDigitChars 10 _ 0 = n
    rw [Nat.ofDigitChars_append, Nat.ofDigitChars_replicate_zero, Nat.mul_zero]
    exact h.number_eq

theorem Spells.split_append (h : Spells ds n) (hrest : ∀ c ∈ rest.head?, c.isDigit = false) :
    split (ds ++ rest) = (ds, rest) := by
  rw [split, List.takeWhile_append_of_pos h.digits, List.dropWhile_append_of_pos h.digits]
  cases rest with
  | nil => simp
  | cons c cs => simp [hrest c rfl]

theorem Spells.readNat_append (h : Spells ds n) (hrest : ∀ c ∈ rest.head?, c.isDigit = false) :
    readNat (ds ++ rest) = (n, rest) := by
  rw [readNat, h.split_append hrest, h.number_eq]

theorem Spells.readInt_append (h : Spells ds n) (hrest : ∀ c ∈ rest.head?, c.isDigit = false) :
    readInt (ds ++ rest) = ((n : Int), rest) := by
  have hnat := h.readNat_append hrest
  obtain ⟨c, cs, rfl⟩ := List.exists_cons_of_ne_nil h.ne_nil
  have hc := h.digits c List.mem_cons_self
  unfold readInt
  split
  · next heq =>
    rw [(List.cons.inj heq).1] at hc
    cases hc
  · next heq =>
    rw [(List.cons.inj heq).1] at hc
    cases hc
  · rw [hnat]

theorem readNat_toString (n : Nat) : readNat (toString n).toList = (n, []) := by
  have h : readNat (Nat.toDigits 10 n ++ []) = (n, []) := (spells_toDigits n).readNat_append (by simp)
  rwa [Nat.toString_eq_ofList_toDigits, String.toList_ofList, ← List.append_nil (Nat.toDigits 10 n)]

theorem readInt_toString (n : Int) : readInt (toString n).toList = (n, []) := by
  cases n with
  | ofNat n =>
    change readInt (toString n).toList = _
    have h : readInt (Nat.toDigits 10 n ++ []) = ((n : Int), []) :=
      (spells_toDigits n).readInt_append (by simp)
    rwa [Nat.toString_eq_ofList_toDigits, String.toList_ofList, ← List.append_nil (Nat.toDigits 10 n)]
  | negSucc n =>
    change readInt ("-" ++ toString (n + 1)).toList = _
    rw [String.toList_append]
    change readInt ('-' :: (toString (n + 1)).toList) = _
    rw [readInt, readNat_toString, Int.negSucc_eq, Int.natCast_succ]

theorem readInt_yearText (y : Int) (hrest : ∀ c ∈ rest.head?, c.isDigit = false) :
    readInt ((Calendar.yearText y).toList ++ rest) = (y, rest) := by
  have h := spells_padded 4 y.natAbs
  unfold Calendar.yearText
  split
  · have hy : -(y.natAbs : Int) = y := by omega
    rw [String.toList_append]
    change readInt ('-' :: ((Calendar.padded 4 y.natAbs).toList ++ rest)) = _
    rw [readInt, h.readNat_append hrest, hy]
  · have hy : (y.natAbs : Int) = y := by omega
    split
    · rw [String.toList_append]
      change readInt ('+' :: ((Calendar.padded 4 y.natAbs).toList ++ rest)) = _
      rw [readInt, h.readNat_append hrest, hy]
    · rw [h.readInt_append hrest, hy]

end QueryText.Decimal.Digits
