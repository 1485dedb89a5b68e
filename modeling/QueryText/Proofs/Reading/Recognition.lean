import QueryText.Proofs.Reading.Table

namespace QueryText.Reading

theorem word_injective : Function.Injective Token.word :=
  fun _ _ h => Token.word.inj h

theorem strip?_eq_some {ws : List Word} {ts k : List Token} (h : strip? ws ts = some k) :
    ts = ws.map .word ++ k := by
  induction ws generalizing ts with
  | nil =>
    obtain rfl := Option.some.inj h
    rfl
  | cons w ws ih =>
    cases ts with
    | nil => simp [strip?] at h
    | cons s ts =>
      cases s with
      | atom e => simp [strip?] at h
      | word v =>
        rw [strip?] at h
        split at h
        · subst w
          rw [ih h, List.map_cons, List.cons_append]
        · simp at h

theorem prefix_or_prefix {vs ws : List Word} {j k : List Token}
    (h : vs.map .word ++ j = ws.map .word ++ k) : vs <+: ws ∨ ws <+: vs := by
  have hv : vs.map .word <+: ws.map .word ++ k := ⟨j, h⟩
  obtain hp | hp := List.prefix_or_prefix_of_prefix hv (List.prefix_append _ _)
  · exact .inl ((List.prefix_map_iff_of_injective word_injective).mp hp)
  · exact .inr ((List.prefix_map_iff_of_injective word_injective).mp hp)

def Token.Starts (t : List Notation) : Token → Prop
  | word w => w ∈ starts t
  | atom _ => True

variable {r : Rules} {x y : Notation}

theorem going?_led (hr : Readable r) (hx : x ∈ table r) (hlead : x.lead = []) (k : List Token) :
    going? (table r) ((wordsOf x.led).map .word ++ k) = some (x, k) := by
  obtain ⟨before, after, ht⟩ := List.append_of_mem hx
  refine List.findSome?_eq_some_iff.mpr ⟨before, x, after, ht, ?_, ?_⟩
  · simp [hlead, strip?_append]
  · intro y hy
    have hapart := hr.ledApart
    rw [ht, List.pairwise_append] at hapart
    have hyx : y.LedApart x := hapart.2.2 y hy x (by simp)
    by_cases hylead : y.lead = []
    · obtain hne | hne | ⟨hyx, hxy⟩ := hyx
      · exact absurd hylead hne
      · exact absurd hlead hne
      · cases hs : strip? (wordsOf y.led) ((wordsOf x.led).map .word ++ k) with
        | none => simp [hylead]
        | some j =>
          obtain hp | hp := prefix_or_prefix (strip?_eq_some hs)
          · exact absurd hp hxy
          · exact absurd hp hyx
    · simp [hylead]

theorem leading?_lead (hr : Readable r) (hx : x ∈ table r) (hlead : x.lead ≠ []) {s : Token}
    (hs : s.Starts (table r)) (k : List Token) :
    leading? (table r) ((wordsOf x.lead).map .word ++ s :: k) = some (x, s :: k) := by
  obtain ⟨before, after, ht⟩ := List.append_of_mem hx
  refine List.findSome?_eq_some_iff.mpr ⟨before, x, after, ht, ?_, ?_⟩
  · simp [hlead, strip?_append]
  · intro y hy
    have hclear := hr.leadClear
    rw [ht, List.pairwise_append, ← ht] at hclear
    have hyx : Notation.LeadClear (table r) y x := hclear.2.2 y hy x (by simp)
    by_cases hylead : y.lead = []
    · simp [hylead]
    · obtain he | he | ⟨hyx, hxy⟩ := hyx
      · exact absurd he hylead
      · exact absurd he hlead
      · cases hstrip : strip? (wordsOf y.lead) ((wordsOf x.lead).map .word ++ s :: k) with
        | none => simp
        | some j =>
          have heq := strip?_eq_some hstrip
          obtain hp | hp := prefix_or_prefix heq
          · have hclear := hxy hp
            obtain ⟨us, hus⟩ := hp
            cases us with
            | nil => exact absurd ⟨[], by simpa using hus.symm⟩ hyx
            | cons w us =>
              -- the longer lead would have to go on with the first word of the operand
              rw [← hus, List.map_append, List.append_assoc, List.append_cancel_left_eq, List.map_cons,
                List.cons_append, List.cons_eq_cons] at heq
              rw [heq.1] at hs
              exact absurd hs (hclear w (by simp [← hus]))
          · exact absurd hp hyx

def Stops (t : List Notation) (m : Limit) (ts : List Token) : Prop :=
  ∀ x k, going? t ts = some (x, k) → allowed x.rank m = false

theorem going?_cases {t : List Notation} {ts k : List Token} (h : going? t ts = some (x, k)) :
    x ∈ t ∧ x.lead = [] ∧ ts = (wordsOf x.led).map .word ++ k := by
  obtain ⟨y, hy, hfound⟩ := List.exists_of_findSome?_eq_some h
  split at hfound
  · obtain ⟨j, hj, hjx⟩ := Option.map_eq_some_iff.mp hfound
    obtain ⟨rfl, rfl⟩ := Prod.mk.inj hjx
    exact ⟨hy, ‹_›, strip?_eq_some hj⟩
  · simp at hfound

theorem goOn_of_stops {t : List Notation} {m : Limit} {ts : List Token} (h : Stops t m ts) (e : Expr) :
    goOn t m e ts = some (e, ts) := by
  unfold goOn
  cases hg : going? t ts with
  | none => rfl
  | some found =>
    obtain ⟨x, k⟩ := found
    simp [h x k hg]

namespace Stops

variable {m : Limit}

theorem nil (hr : Readable r) : Stops (table r) m [] := by
  intro x k h
  obtain ⟨hx, hlead, hts⟩ := going?_cases h
  obtain ⟨w, hw, -⟩ := hr.ledWords x hx hlead
  have hnil : wordsOf x.led = [] := by simpa using (List.append_eq_nil_iff.mp hts.symm).1
  simp [hnil] at hw

theorem closing (hr : Readable r) (k : List Token) : Stops (table r) m (.word closeParen :: k) := by
  intro x j h
  obtain ⟨hx, hlead, hts⟩ := going?_cases h
  obtain ⟨w, hw, hne⟩ := hr.ledWords x hx hlead
  obtain ⟨ws, hws⟩ := List.head?_eq_some_iff.mp hw
  rw [hws, List.map_cons, List.cons_append, List.cons_eq_cons] at hts
  exact absurd (word_injective hts.1).symm hne

theorem of_closes {t : List Notation} {after : List Char} (h : closes t m after) (k : List Token)
    (hled : ∀ x ∈ t, x.lead = [] → wordsOf x.led ≠ []) :
    Stops t m ((wordsOf after).map .word ++ k) := by
  intro x j hx
  obtain ⟨hmem, hlead, hts⟩ := going?_cases hx
  obtain ⟨v, vs, hv⟩ := List.exists_cons_of_ne_nil (hled x hmem hlead)
  rw [closes, Bool.and_eq_true, List.all_eq_true] at h
  obtain ⟨hne, hall⟩ := h
  obtain ⟨u, us, hu⟩ := List.exists_cons_of_ne_nil (by simpa using hne : wordsOf after ≠ [])
  rw [hv, hu, List.map_cons, List.map_cons, List.cons_append, List.cons_append, List.cons_eq_cons] at hts
  have hheads : (wordsOf x.led).head? = (wordsOf after).head? := by
    rw [hv, hu, List.head?_cons, List.head?_cons, word_injective hts.1]
  simpa [hlead, hheads] using hall x hmem

theorem mono {t : List Notation} {m' : Limit} {ts : List Token} (h : Stops t m ts)
    (hm : ∀ rank, allowed rank m' → allowed rank m) : Stops t m' ts := by
  intro x k hx
  have hmx := h x k hx
  cases ha : allowed x.rank m' with
  | false => rfl
  | true => rw [hm x.rank ha] at hmx; contradiction

end Stops

end QueryText.Reading
