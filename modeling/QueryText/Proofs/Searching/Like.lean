import Mathlib.Data.List.Infix
import QueryText.Dialect.Rules

namespace QueryText

namespace Like

/-- A pattern, with that escape character, selects the text: a percent sign stands for any characters,
an underscore for one, and any character behind the escape character for itself. -/
def selects (escape : Char) : List Char → List Char → Bool
  | [], xs => xs.isEmpty
  | c :: p, xs =>
    if c = escape then
      match p, xs with
      | d :: p, x :: xs => d == x && selects escape p xs
      | _, _ => false
    else if c = '%' then xs.tails.any (selects escape p)
    else
      match xs with
      | x :: xs => (c == '_' || c == x) && selects escape p xs
      | [] => false

/-- Characters that a pattern reads as themselves. -/
def Plain (escape : Char) (s : List Char) : Prop :=
  ∀ c ∈ s, c ≠ '%' ∧ c ≠ '_' ∧ c ≠ escape

instance (escape : Char) (s : List Char) : Decidable (Plain escape s) :=
  inferInstanceAs (Decidable (∀ c ∈ s, c ≠ '%' ∧ c ≠ '_' ∧ c ≠ escape))

variable {escape c d x : Char} {p s xs : List Char}

theorem selects_nil : selects escape [] xs = true ↔ xs = [] := by
  simp [selects]

theorem selects_escape :
    selects escape (escape :: d :: p) xs = true ↔ ∃ t, xs = d :: t ∧ selects escape p t = true := by
  cases xs with
  | nil => simp [selects]
  | cons x xs => simp [selects, eq_comm (a := d)]

theorem selects_any (h : escape ≠ '%') :
    selects escape ('%' :: p) xs = true ↔ ∃ t, t <:+ xs ∧ selects escape p t = true := by
  rw [selects.eq_def]
  simp [h.symm]

theorem selects_one (h : escape ≠ '_') :
    selects escape ('_' :: p) xs = true ↔ ∃ x t, xs = x :: t ∧ selects escape p t = true := by
  rw [selects.eq_def]
  cases xs <;> simp [h.symm]

theorem selects_char (h : c ≠ '%' ∧ c ≠ '_' ∧ c ≠ escape) :
    selects escape (c :: p) xs = true ↔ ∃ t, xs = c :: t ∧ selects escape p t = true := by
  obtain ⟨hany, hone, hescape⟩ := h
  rw [selects.eq_def]
  cases xs <;> simp [hany, hone, hescape, eq_comm (a := c)]

theorem selects_percent (h : escape ≠ '%') (xs : List Char) : selects escape ['%'] xs = true :=
  (selects_any h).mpr ⟨[], List.nil_suffix, rfl⟩

theorem selects_escaped (s p xs : List Char) :
    selects escape (Rules.escapeWildcards escape s ++ p) xs = true ↔
      ∃ t, xs = s ++ t ∧ selects escape p t = true := by
  induction s generalizing xs with
  | nil => simp [Rules.escapeWildcards]
  | cons c s ih =>
    unfold Rules.escapeWildcards
    split
    · rw [List.cons_append, List.cons_append, selects_escape]
      simp [ih]
    · next h =>
      have hc : c ≠ '%' ∧ c ≠ '_' ∧ c ≠ escape := by simpa [and_assoc] using h
      rw [List.cons_append, selects_char hc]
      simp [ih]

theorem escapeWildcards_eq_self (h : Plain escape s) : Rules.escapeWildcards escape s = s := by
  induction s with
  | nil => rfl
  | cons c s ih =>
    obtain ⟨hc, hs⟩ := List.forall_mem_cons.mp h
    simp [Rules.escapeWildcards, hc, ih hs]

/-- The text, as a pattern with `behind` after it, selects nothing, or it selects a text that is no
longer and, unless the text is plain, a different one. -/
def SelectsShort (escape : Char) (behind s : List Char) : Prop :=
  (∀ x, ¬ selects escape (s ++ behind) x = true) ∨
    ∃ x, selects escape (s ++ behind) x = true ∧ x.length ≤ s.length ∧ (x = s → Plain escape s)

namespace SelectsShort

variable {behind : List Char}

theorem nil (h : escape ≠ '%') (hb : behind = [] ∨ behind = ['%']) :
    SelectsShort escape behind [] := by
  refine .inr ⟨[], ?_, le_rfl, fun _ => by simp [Plain]⟩
  obtain rfl | rfl := hb
  · rfl
  · exact selects_percent h []

theorem escape_nil (h : escape ≠ '%') (hb : behind = [] ∨ behind = ['%']) :
    SelectsShort escape behind [escape] := by
  obtain rfl | rfl := hb
  · exact .inl fun x => by simp [selects]
  · refine .inr ⟨['%'], selects_escape.mpr ⟨[], rfl, rfl⟩, le_rfl, fun heq => ?_⟩
    exact absurd (List.cons.inj heq).1.symm h

theorem escape_cons (d : Char) (hs : SelectsShort escape behind s) :
    SelectsShort escape behind (escape :: d :: s) := by
  obtain hs | ⟨t, ht, hle, -⟩ := hs
  · refine .inl fun x hx => ?_
    obtain ⟨t, -, ht⟩ := selects_escape.mp hx
    exact hs t ht
  · refine .inr ⟨d :: t, selects_escape.mpr ⟨t, rfl, ht⟩, ?_, fun heq => ?_⟩
    · simp only [List.length_cons]
      omega
    · have hlength := congrArg List.length heq
      simp only [List.length_cons] at hlength
      omega

theorem any (h : escape ≠ '%') (hs : SelectsShort escape behind s) :
    SelectsShort escape behind ('%' :: s) := by
  obtain hs | ⟨t, ht, hle, -⟩ := hs
  · refine .inl fun x hx => ?_
    obtain ⟨t, -, ht⟩ := (selects_any h).mp hx
    exact hs t ht
  · refine .inr ⟨t, (selects_any h).mpr ⟨t, List.suffix_refl t, ht⟩, ?_, fun heq => ?_⟩
    · simp only [List.length_cons]
      omega
    · have hlength := congrArg List.length heq
      simp only [List.length_cons] at hlength
      omega

theorem one (h : escape ≠ '_') (hs : SelectsShort escape behind s) :
    SelectsShort escape behind ('_' :: s) := by
  obtain hs | ⟨t, ht, hle, -⟩ := hs
  · refine .inl fun x hx => ?_
    obtain ⟨-, t, -, ht⟩ := (selects_one h).mp hx
    exact hs t ht
  · refine .inr ⟨'a' :: t, (selects_one h).mpr ⟨'a', t, rfl, ht⟩, ?_, fun heq => ?_⟩
    · simpa using hle
    · cases (List.cons.inj heq).1

theorem char (hc : c ≠ '%' ∧ c ≠ '_' ∧ c ≠ escape) (hs : SelectsShort escape behind s) :
    SelectsShort escape behind (c :: s) := by
  obtain hs | ⟨t, ht, hle, hplain⟩ := hs
  · refine .inl fun x hx => ?_
    obtain ⟨t, -, ht⟩ := (selects_char hc).mp hx
    exact hs t ht
  · refine .inr ⟨c :: t, (selects_char hc).mpr ⟨t, rfl, ht⟩, ?_, fun heq => ?_⟩
    · simpa using hle
    · exact List.forall_mem_cons.mpr ⟨hc, hplain (List.cons.inj heq).2⟩

theorem of_text (h : escape ≠ '%') (hb : behind = [] ∨ behind = ['%']) :
    (s : List Char) → SelectsShort escape behind s
  | [] => nil h hb
  | c :: s => by
    by_cases hescape : c = escape
    · rw [hescape]
      match s with
      | [] => exact escape_nil h hb
      | d :: s => exact escape_cons d (of_text h hb s)
    · by_cases hany : c = '%'
      · rw [hany]
        exact any h (of_text h hb s)
      · by_cases hone : c = '_'
        · rw [hone]
          exact one (fun he => hescape (hone.trans he.symm)) (of_text h hb s)
        · exact char ⟨hany, hone, hescape⟩ (of_text h hb s)

end SelectsShort

end Like

namespace Affix

/-- What is asked of a text when wildcards are put around `s`. -/
def Asks (a : Affix) (s x : List Char) : Prop :=
  match a with
  | bare => x = s
  | leading => s <:+ x
  | trailing => s <+: x
  | both => s <:+: x

theorem Asks.eq {a : Affix} {s x : List Char} (h : a.Asks s x) (hle : x.length ≤ s.length) : x = s := by
  cases a with
  | bare => exact h
  | leading => exact (List.IsSuffix.eq_of_length_le h hle).symm
  | trailing => exact (List.IsPrefix.eq_of_length_le h hle).symm
  | both => exact (List.IsInfix.eq_of_length_le h hle).symm

theorem asks_self (a : Affix) (s : List Char) : a.Asks s s := by
  cases a with
  | bare => rfl
  | leading => exact List.suffix_refl s
  | trailing => exact List.prefix_refl s
  | both => exact List.infix_refl s

variable {escape : Char}

theorem selects_apply (a : Affix) (s : String) (x : List Char) (h : escape ≠ '%') :
    Like.selects escape (a.apply s).toList x = true ↔
      match a with
      | bare => Like.selects escape s.toList x = true
      | leading => ∃ t, t <:+ x ∧ Like.selects escape s.toList t = true
      | trailing => Like.selects escape (s.toList ++ ['%']) x = true
      | both => ∃ t, t <:+ x ∧ Like.selects escape (s.toList ++ ['%']) t = true := by
  cases a <;> simp [apply, Like.selects_any h]

theorem selects_apply_escaped (h : escape ≠ '%') (a : Affix) (s : String) (x : List Char) :
    Like.selects escape (a.apply (String.ofList (Rules.escapeWildcards escape s.toList))).toList x =
      true ↔ a.Asks s.toList x := by
  have hend : ∀ t, Like.selects escape (Rules.escapeWildcards escape s.toList) t = true ↔
      t = s.toList := fun t => by
    rw [← List.append_nil (Rules.escapeWildcards escape s.toList), Like.selects_escaped]
    simp [Like.selects_nil]
  have hmore : ∀ t, Like.selects escape (Rules.escapeWildcards escape s.toList ++ ['%']) t = true ↔
      s.toList <+: t := fun t => by
    rw [Like.selects_escaped]
    simp [Like.selects_percent h, List.IsPrefix, eq_comm]
  rw [selects_apply a _ x h, String.toList_ofList]
  cases a with
  | bare => exact hend x
  | leading => simp [Asks, hend]
  | trailing => exact hmore x
  | both =>
    simp only [hmore, Asks, List.infix_iff_prefix_suffix]
    exact exists_congr fun t => and_comm

theorem exists_behind (h : escape ≠ '%') (a : Affix) (s : String) :
    ∃ behind, (behind = [] ∨ behind = ['%']) ∧
      (∀ t, Like.selects escape (s.toList ++ behind) t = true →
        Like.selects escape (a.apply s).toList t = true) ∧
      ∀ x, Like.selects escape (a.apply s).toList x = true →
        ∃ t, Like.selects escape (s.toList ++ behind) t = true := by
  simp only [fun x => selects_apply a s x h]
  cases a with
  | bare => exact ⟨[], .inl rfl, fun t ht => by simpa using ht, fun x hx => ⟨x, by simpa using hx⟩⟩
  | leading =>
    refine ⟨[], .inl rfl, fun t ht => ⟨t, List.suffix_refl t, by simpa using ht⟩, ?_⟩
    rintro x ⟨t, -, ht⟩
    exact ⟨t, by simpa using ht⟩
  | trailing => exact ⟨['%'], .inr rfl, fun t ht => ht, fun x hx => ⟨x, hx⟩⟩
  | both =>
    refine ⟨['%'], .inr rfl, fun t ht => ⟨t, List.suffix_refl t, ht⟩, ?_⟩
    rintro x ⟨t, -, ht⟩
    exact ⟨t, ht⟩

theorem selects_apply_iff (h : escape ≠ '%') (a : Affix) (s : String) :
    (∀ x, Like.selects escape (a.apply s).toList x = true ↔ a.Asks s.toList x) ↔
      Like.Plain escape s.toList := by
  constructor
  · intro hasks
    obtain ⟨behind, hb, hselects, hsome⟩ := exists_behind h a s
    obtain hnone | ⟨t, ht, hle, hplain⟩ := Like.SelectsShort.of_text h hb s.toList
    · obtain ⟨t, ht⟩ := hsome s.toList ((hasks s.toList).mpr (a.asks_self s.toList))
      exact absurd ht (hnone t)
    · have hasked := (hasks t).mp (hselects t ht)
      exact hplain (hasked.eq hle)
  · intro hplain x
    have hescaped := selects_apply_escaped h a s x
    rwa [Like.escapeWildcards_eq_self hplain, String.ofList_toList] at hescaped

end Affix

end QueryText
