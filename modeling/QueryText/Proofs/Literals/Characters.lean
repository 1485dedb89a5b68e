import QueryText.Dialect.Literal
import QueryText.Proofs.Digits

namespace QueryText

variable {q : Char}

/-- The character is in no number, date or time, and in no row of bytes. -/
structure Foreign (q : Char) : Prop where
  digit : q.isDigit = false
  hex : ∀ n < 16, Nat.digitChar n ≠ q
  mark : q ∉ ['-', '+', ':', ' ', '.', 'e']

theorem notMem_append {s t : String} (hs : q ∉ s.toList) (ht : q ∉ t.toList) : q ∉ (s ++ t).toList := by
  rw [String.toList_append, List.mem_append]
  exact fun h => h.elim hs ht

theorem notMem_intercalate {separator : String} {ts : List String} (hs : q ∉ separator.toList)
    (hts : ∀ t ∈ ts, q ∉ t.toList) : q ∉ (String.intercalate separator ts).toList := by
  induction ts with
  | nil => simp
  | cons t ts ih =>
    obtain ⟨ht, hts⟩ := List.forall_mem_cons.mp hts
    cases ts with
    | nil => simpa using ht
    | cons u us =>
      rw [String.intercalate_cons_cons]
      exact notMem_append (notMem_append ht hs) (ih hts)

namespace Decimal.Notation

theorem isDigit_of_mem_stripZeros {n : Nat} {c : Char} (hc : c ∈ (stripZeros (Nat.toDigits 10 n)).1) :
    c.isDigit = true := by
  have hmem : c ∈ Nat.toDigits 10 n := by
    simp only [stripZeros, List.mem_reverse] at hc
    exact List.mem_reverse.mp ((List.dropWhile_suffix _).mem hc)
  exact (Digits.spells_toDigits n).digits c hmem

def isFigure (c : Char) : Bool :=
  c.isDigit || c == '.'

theorem isFigure_positional {digits : List Char} (hd : ∀ c ∈ digits, c.isDigit = true) (exponent : Int) :
    positional digits exponent ≠ [] ∧ ∀ c ∈ positional digits exponent, isFigure c = true := by
  have hdigits {c : Char} (hc : c ∈ digits) : isFigure c = true := by simp [isFigure, hd c hc]
  have hzeros {n : Nat} {c : Char} (hc : c ∈ zeros n) : isFigure c = true := by
    rw [(List.mem_replicate.mp hc).2]
    decide
  unfold positional
  dsimp only
  split
  · refine ⟨by simp, fun c hc => ?_⟩
    simp only [List.mem_append] at hc
    obtain (hc | hc) | hc := hc
    · exact hdigits hc
    · exact hzeros hc
    · exact List.all_eq_true.mp (by decide) c hc
  · split
    · refine ⟨by simp, fun c hc => ?_⟩
      simp only [List.mem_append, List.mem_cons] at hc
      obtain hc | rfl | hc := hc
      · exact hdigits (List.mem_of_mem_take hc)
      · decide
      · exact hdigits (List.mem_of_mem_drop hc)
    · refine ⟨by simp, fun c hc => ?_⟩
      simp only [List.cons_append, List.mem_cons, List.mem_append] at hc
      obtain rfl | rfl | hc | hc := hc
      · decide
      · decide
      · exact hzeros hc
      · exact hdigits hc

end Decimal.Notation

namespace Foreign

variable (hq : Foreign q)

include hq

theorem notMem_digits {ds : List Char} (hds : ∀ c ∈ ds, c.isDigit = true) : q ∉ ds := by
  intro h
  have hdigit := hds q h
  rw [hq.digit] at hdigit
  cases hdigit

theorem notMem_mark {s : String} (hs : s.toList ⊆ ['-', '+', ':', ' ', '.', 'e']) : q ∉ s.toList :=
  fun h => hq.mark (hs h)

theorem notMem_padded (width n : Nat) : q ∉ (Calendar.padded width n).toList :=
  hq.notMem_digits (Decimal.Digits.spells_padded width n).digits

theorem notMem_date (d : Date) : q ∉ d.text.toList := by
  have hyear : q ∉ (Calendar.yearText d.year).toList := by
    unfold Calendar.yearText
    split
    · exact notMem_append (hq.notMem_mark (by decide)) (hq.notMem_padded _ _)
    · split
      · exact notMem_append (hq.notMem_mark (by decide)) (hq.notMem_padded _ _)
      · exact hq.notMem_padded _ _
  have hdash : q ∉ "-".toList := hq.notMem_mark (by decide)
  exact notMem_append (notMem_append (notMem_append (notMem_append hyear hdash) (hq.notMem_padded _ _)) hdash)
    (hq.notMem_padded _ _)

theorem notMem_clock (t : Time) : q ∉ t.clock.toList := by
  have hcolon : q ∉ ":".toList := hq.notMem_mark (by decide)
  exact notMem_append (notMem_append (notMem_append (notMem_append (hq.notMem_padded _ _) hcolon)
    (hq.notMem_padded _ _)) hcolon) (hq.notMem_padded _ _)

theorem notMem_dateTime (t : DateTime) : q ∉ t.clock.toList :=
  notMem_append (notMem_append (hq.notMem_date _) (hq.notMem_mark (by decide))) (hq.notMem_clock _)

theorem notMem_bytes (bs : List UInt8) : q ∉ (String.ofList (bs.flatMap Rules.hexByte)).toList := by
  rw [String.toList_ofList]
  intro h
  obtain ⟨b, -, hb⟩ := List.mem_flatMap.mp h
  have hlt := b.toNat_lt
  simp only [Rules.hexByte, List.mem_cons, List.not_mem_nil, or_false] at hb
  obtain hb | hb := hb
  · exact hq.hex (b.toNat / 16) (by omega) hb.symm
  · exact hq.hex (b.toNat % 16) (by omega) hb.symm

theorem notMem_nat (n : Nat) : q ∉ (toString n).toList := by
  rw [Nat.toString_eq_ofList_toDigits, String.toList_ofList]
  exact hq.notMem_digits (Decimal.Digits.spells_toDigits n).digits

theorem notMem_int (n : Int) : q ∉ (toString n).toList := by
  cases n with
  | ofNat n => exact hq.notMem_nat n
  | negSucc n => exact notMem_append (hq.notMem_mark (s := "-") (by decide)) (hq.notMem_nat (n + 1))

section Float

open Decimal.Notation

theorem notMem_unsigned (d : Decimal.Shortest.Scaled) : q ∉ unsigned d := by
  have hdigits : ∀ c ∈ (stripZeros (Nat.toDigits 10 d.coefficient)).1, c.isDigit = true :=
    fun c hc => isDigit_of_mem_stripZeros hc
  have hpoint : q ≠ '.' ∧ q ≠ 'e' := by
    constructor <;> rintro rfl <;> exact hq.mark (by decide)
  unfold unsigned
  dsimp only
  split
  · intro h
    have hfigure := (isFigure_positional hdigits _).2 q h
    simp [isFigure, hq.digit, hpoint.1] at hfigure
  · unfold scientific
    simp only [List.mem_append, List.mem_cons, not_or]
    refine ⟨⟨fun h => hq.notMem_digits hdigits (List.mem_of_mem_take h), fun h => ?_⟩, hpoint.2, hq.notMem_int _⟩
    split at h
    · cases h
    · obtain h | h := List.mem_cons.mp h
      · exact hpoint.1 h
      · exact hq.notMem_digits hdigits (List.mem_of_mem_drop h)

theorem notMem_float {x : Float} (hx : isFinite x = true) : q ∉ (floatText x).toList := by
  have hsign (negative : Bool) : q ∉ (if negative = true then "-" else "").toList := by
    cases negative with
    | false => simp
    | true => exact hq.notMem_mark (s := "-") (by decide)
  have hzero : q ∉ "0.0".toList := by
    have hchars : q ≠ '0' ∧ q ≠ '.' := by
      constructor
      · rintro rfl
        exact hq.hex 0 (by decide) rfl
      · rintro rfl
        exact hq.mark (by decide)
    simp [hchars.1, hchars.2]
  unfold floatText
  dsimp only
  split
  · exact notMem_append (hsign _) hzero
  · refine notMem_append (hsign _) ?_
    rw [String.toList_ofList]
    exact hq.notMem_unsigned _

end Float

end Foreign

end QueryText
