import Mathlib.Algebra.GroupWithZero.Nat
import QueryText.Fingerprint
import QueryText.Proofs.Literals.Values

namespace QueryText.Fingerprint

variable {d e : Dialect} {s t : String} {m n : Nat} {xs ys : List UInt8}

theorem Sha256.bytesOf_injective : Function.Injective Sha256.bytesOf := by
  intro v w h
  have hbytes := congrArg (List.map UInt8.toNat) h
  simp only [Sha256.bytesOf, List.map_cons, List.map_nil, UInt32.toNat_toUInt8, UInt32.toNat_shiftRight,
    UInt32.reduceToNat, Nat.reduceMod, Nat.shiftRight_eq_div_pow, Nat.reducePow, List.cons.injEq,
    and_true] at hbytes
  have hv := v.toNat_lt
  have hw := w.toNat_lt
  exact UInt32.toNat_inj.mp (by omega)

def largest : Nat :=
  UInt32.size - 1

theorem word_eq_iff : word m = word n ↔ m = n ∨ largest ≤ m ∧ largest ≤ n := by
  have hmin : word m = word n ↔ min m largest = min n largest := by
    refine ⟨fun h => ?_, fun h => ?_⟩
    · have hw := congrArg UInt32.toNat (Sha256.bytesOf_injective h)
      have hsize : largest < UInt32.size := by decide
      rwa [UInt32.toNat_ofNat_of_lt' (by omega), UInt32.toNat_ofNat_of_lt' (by omega)] at hw
    · exact congrArg (fun k => Sha256.bytesOf (UInt32.ofNat k)) h
  rw [hmin]
  omega

theorem length_word (n : Nat) : (word n).length = 4 := rfl

theorem toList_loop (bs : ByteArray) (i : Nat) (r : List UInt8) :
    ByteArray.toList.loop bs i r = r.reverse ++ bs.data.toList.drop i := by
  fun_induction ByteArray.toList.loop bs i r with
  | case1 i r h ih =>
    have hi : i < bs.data.toList.length := by simpa using h
    have hget : bs.get! i = bs.data.toList[i] := by
      rw [Array.getElem_toList]
      exact getElem!_pos bs.data i h
    rw [ih, List.drop_eq_getElem_cons hi, hget, List.reverse_cons, List.append_assoc]
    rfl
  | case2 i r h =>
    have hi : bs.data.toList.length ≤ i := by simpa using h
    rw [List.drop_of_length_le hi, List.append_nil]

theorem bytes_eq (s : String) : bytes s = s.toByteArray.data.toList :=
  toList_loop s.toByteArray 0 []

theorem bytes_injective : Function.Injective bytes := by
  intro s t h
  rw [bytes_eq, bytes_eq, Array.toList_inj] at h
  exact String.toByteArray_inj.mp (ByteArray.ext h)

theorem measured_append_inj (hs : (bytes s).length < largest)
    (h : measured s ++ xs = measured t ++ ys) : s = t ∧ xs = ys := by
  simp only [measured, List.append_assoc] at h
  obtain ⟨hword, hrest⟩ := List.append_inj h rfl
  have hlength : (bytes s).length = (bytes t).length := by
    have := word_eq_iff.mp hword
    omega
  obtain ⟨hbytes, hend⟩ := List.append_inj hrest hlength
  exact ⟨bytes_injective hbytes, hend⟩

theorem measured_append_inj_of_length (hlength : xs.length = ys.length)
    (h : measured s ++ xs = measured t ++ ys) : s = t ∧ xs = ys := by
  obtain ⟨htext, hend⟩ := List.append_inj' h hlength
  exact ⟨bytes_injective (List.append_inj htext rfl).2, hend⟩

theorem length_bytes_name_lt (d : Dialect) : (bytes d.name).length < largest := by
  have hlength : (bytes d.name).length = d.name.utf8ByteSize := by
    rw [bytes_eq]
    rfl
  rw [hlength]
  cases d <;> decide

theorem name_injective : Function.Injective Dialect.name := by
  intro d e h
  cases d <;> cases e <;> simp [Dialect.name] at h ⊢

theorem hex_injective : Function.Injective hex := by
  intro xs ys h
  have hread := congrArg Rules.readBytes (String.ofList_injective h)
  rwa [Rules.readBytes_hexBytes, Rules.readBytes_hexBytes] at hread

theorem message_eq_iff :
    message d s m = message e t n ↔ d = e ∧ s = t ∧ (m = n ∨ largest ≤ m ∧ largest ≤ n) := by
  refine ⟨fun h => ?_, ?_⟩
  · simp only [message, List.append_assoc] at h
    obtain ⟨hname, hrest⟩ := measured_append_inj (length_bytes_name_lt d) (List.append_cancel_left h)
    obtain ⟨htext, hslots⟩ := measured_append_inj_of_length
      ((length_word m).trans (length_word n).symm) hrest
    exact ⟨name_injective hname, htext, word_eq_iff.mp hslots⟩
  · rintro ⟨rfl, rfl, hslots⟩
    rw [message, message, word_eq_iff.mpr hslots]

/-- Only the same dialect, text and number of slots, or two numbers that do not fit, make the same message; and two
statements share a fingerprint only for this reason, or because their messages are a collision of the hash. -/
theorem message_unambiguous (d e : Dialect) (s t : String) (m n : Nat) :
    (message d s m = message e t n ↔ d = e ∧ s = t ∧ (m = n ∨ 2 ^ 32 - 1 ≤ m ∧ 2 ^ 32 - 1 ≤ n)) ∧
      (compute d s m = compute e t n ↔ (d = e ∧ s = t ∧ (m = n ∨ 2 ^ 32 - 1 ≤ m ∧ 2 ^ 32 - 1 ≤ n)) ∨
        message d s m ≠ message e t n ∧
          Sha256.digest (message d s m) = Sha256.digest (message e t n)) := by
  have hmessage : message d s m = message e t n ↔
      d = e ∧ s = t ∧ (m = n ∨ 2 ^ 32 - 1 ≤ m ∧ 2 ^ 32 - 1 ≤ n) := message_eq_iff
  have hcompute : compute d s m = compute e t n ↔
      Sha256.digest (message d s m) = Sha256.digest (message e t n) := hex_injective.eq_iff
  refine ⟨hmessage, ?_⟩
  rw [← hmessage, hcompute]
  constructor
  · intro h
    by_cases heq : message d s m = message e t n
    · exact .inl heq
    · exact .inr ⟨heq, h⟩
  · rintro (h | ⟨-, h⟩)
    · rw [h]
    · exact h

end QueryText.Fingerprint
