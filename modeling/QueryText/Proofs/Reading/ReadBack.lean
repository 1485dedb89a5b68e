import QueryText.Proofs.Reading.Lexing
import QueryText.Proofs.Reading.Recognition
import QueryText.Proofs.Reading.Regrouping

namespace QueryText.Reading

open Render

def rankOf (r : Rules) : Expr → Option Nat
  | .operation op _ => (r.operators op).bind (·.rank)
  | _ => none

def Ends (r : Rules) (e : Expr) (k : List Token) : Prop :=
  match e with
  | .operation op _ => ∀ x ∈ notation? r op, ∀ m ∈ x.openLimit?, Stops (table r) m k
  | _ => True

/-- The tokens of the expression are read as the expression, and reading goes on behind it. -/
def ReadsAs (r : Rules) (e : Expr) : Prop :=
  ∀ (m : Limit) (k : List Token), allowed (rankOf r e) m → Ends r e k →
    readAt (table r) m (tokens r e ++ k) = goOn (table r) m e k

theorem rankOf_of_leaf (r : Rules) {e : Expr} (h : e.isLeaf) : rankOf r e = none := by
  cases e with
  | operation op args => exact absurd rfl (Expr.head_ne_operation h op)
  | _ => rfl

theorem Ends.of_leaf (r : Rules) {e : Expr} (h : e.isLeaf) (k : List Token) : Ends r e k := by
  cases e with
  | operation op args => exact absurd rfl (Expr.head_ne_operation h op)
  | _ => trivial

theorem allowed_none (rank : Option Nat) : allowed rank none := by
  cases rank <;> rfl

theorem allowed_trans {rank : Option Nat} {k : Nat} {m : Limit} (h : allowed rank (some k))
    (hm : allowed (some k) m) : allowed rank m := by
  cases rank with
  | none => rfl
  | some q =>
    cases m with
    | none => rfl
    | some l =>
      simp only [allowed, decide_eq_true_eq] at h hm ⊢
      omega

variable {c : Context} {e : Expr}

theorem mem_table {r : Rules} {op : Operator} (hop : op ∈ readOperators) {x : Notation}
    (hx : notation? r op = some x) : x ∈ table r :=
  List.mem_filterMap.mpr ⟨op, hop, hx⟩

theorem Plain.ends_of_stops (hr : Readable c.rules) (h : Plain c e) {m : Limit}
    (ha : allowed (rankOf c.rules e) m) {k : List Token} (hs : Stops (table c.rules) m k) :
    Ends c.rules e k := by
  cases h with
  | atom h => exact .of_leaf _ h.leaf k
  | @operation op args hop hlen hargs =>
    intro x hx m' hm'
    obtain ⟨-, hrank⟩ := of_notation?_eq_some hx
    obtain ⟨j, hj, l, hl, hlj⟩ := hr.openRanked x (mem_table hop hx) m' hm'
    obtain rfl : m' = some l := hl
    have hj' : x.rank = some j := hj
    have hlj' : allowed (some l) (some j) := by simpa [allowed] using hlj
    rw [rankOf, hrank, hj'] at ha
    exact hs.mono fun rank hrank' => allowed_trans (allowed_trans hrank' hlj') ha

def Begins (r : Rules) (ts : List Token) : Prop :=
  ∃ s k, ts = s :: k ∧ s.Starts (table r)

namespace Begins

variable {r : Rules} {ts : List Token}

theorem append (h : Begins r ts) (k : List Token) : Begins r (ts ++ k) := by
  obtain ⟨s, j, rfl, hs⟩ := h
  exact ⟨s, j ++ k, rfl, hs⟩

theorem grouped (h : Begins r ts) (b : Bool) : Begins r (groupedTokens b ts) := by
  cases b with
  | false => exact h
  | true => exact ⟨_, _, rfl, List.mem_cons_self⟩

theorem length_pos (h : Begins r ts) : 0 < ts.length := by
  obtain ⟨s, k, rfl, -⟩ := h
  exact Nat.succ_pos _

theorem tokensFrom (x : Notation) (i : Nat) {hs : List Hole} {es : List Expr} (hne : hs ≠ [])
    (hlen : hs.length = es.length) (he : ∀ e ∈ es, Begins r (tokens r e)) :
    Begins r (tokensFrom r x i hs es) := by
  cases hs with
  | nil => exact absurd rfl hne
  | cons h hs =>
    cases es with
    | nil => simp at hlen
    | cons e es =>
      rw [tokensFrom_cons]
      exact ((he e (by simp)).grouped _).append _

end Begins

theorem arity_pos (op : Operator) : 0 < op.arity := by
  cases op <;> decide

theorem holes_ne_nil {op : Operator} {x : Notation} (h : x.holes.length = op.arity) : x.holes ≠ [] := by
  intro hnil
  have hpos := arity_pos op
  rw [← h, hnil] at hpos
  exact Nat.lt_irrefl 0 hpos

theorem Plain.begins (hr : Readable c.rules) (h : Plain c e) : Begins c.rules (tokens c.rules e) := by
  induction h with
  | atom h =>
    rw [tokens_of_leaf h.leaf]
    exact ⟨_, [], rfl, trivial⟩
  | @operation op args hop hlen hargs ih =>
    obtain ⟨x, hx, hholes⟩ := hr.written op hop
    have hmem := mem_table hop hx
    rw [tokens_operation hx]
    by_cases hlead : x.lead = []
    · rw [hlead]
      exact Begins.tokensFrom x 0 (holes_ne_nil hholes) (hholes.trans hlen.symm) ih
    · obtain ⟨w, ws, hw⟩ := List.exists_cons_of_ne_nil (hr.leadWords x hmem hlead)
      have hstart : w ∈ starts (table c.rules) :=
        List.mem_cons_of_mem _ (List.mem_filterMap.mpr ⟨x, hmem, by rw [hw]; rfl⟩)
      refine Begins.append ?_ _
      rw [hw]
      exact ⟨.word w, ws.map .word, rfl, hstart⟩

theorem closes_of_closesHoles {t : List Notation} {rank : Option Nat} {i : Nat} {h : Hole}
    {hs : List Hole} (hc : closesHoles t rank i (h :: hs)) :
    h.after = [] ∧ hs = [] ∨ closes t (limitAt rank i h.enclosed) h.after := by
  cases hs with
  | nil =>
    simp only [closesHoles, Bool.or_eq_true, decide_eq_true_eq] at hc
    exact hc.imp (fun ha => ⟨ha, rfl⟩) id
  | cons h' hs =>
    simp only [closesHoles, Bool.and_eq_true] at hc
    exact .inr hc.1.2

theorem closesHoles_tail {t : List Notation} {rank : Option Nat} {i : Nat} {h : Hole} {hs : List Hole}
    (hc : closesHoles t rank i (h :: hs)) : closesHoles t rank (i + 1) hs := by
  cases hs with
  | nil => rfl
  | cons h' hs =>
    simp only [closesHoles, Bool.and_eq_true] at hc
    exact hc.2

theorem openLimit?_cons {rank : Option Nat} {i : Nat} {h : Hole} {hs : List Hole} {m : Limit}
    (hm : m ∈ openLimit? rank (i + 1) hs) : m ∈ openLimit? rank i (h :: hs) := by
  cases hs with
  | nil => simp [openLimit?] at hm
  | cons h' hs => exact hm

theorem Readable.led_ne_nil {r : Rules} (hr : Readable r) :
    ∀ x ∈ table r, x.lead = [] → wordsOf x.led ≠ [] := by
  intro x hx hlead hnil
  obtain ⟨w, hw, -⟩ := hr.ledWords x hx hlead
  simp [hnil] at hw

theorem readAt_grouped (hr : Readable c.rules) (he : Plain c e) (hread : ReadsAs c.rules e) (b : Bool)
    (m : Limit) (k : List Token) (ha : b = false → allowed (rankOf c.rules e) m)
    (hends : b = false → Ends c.rules e k) :
    readAt (table c.rules) m (groupedTokens b (tokens c.rules e) ++ k) =
      goOn (table c.rules) m e k := by
  cases b with
  | false => exact hread m k (ha rfl) (hends rfl)
  | true =>
    have hclose : Stops (table c.rules) none (.word closeParen :: k) := Stops.closing hr k
    have hends := he.ends_of_stops hr (allowed_none _) hclose
    have hin := hread none _ (allowed_none _) hends
    rw [goOn_of_stops hclose] at hin
    have hlen : k.length < (tokens c.rules e ++ .word closeParen :: k).length := by
      rw [List.length_append, List.length_cons]
      omega
    have htokens : groupedTokens true (tokens c.rules e) ++ k =
        .word openParen :: (tokens c.rules e ++ .word closeParen :: k) := by
      simp [groupedTokens]
    rw [htokens, readAt]
    simp only [hin, hlen, if_true, and_self]

theorem ends_of_led (hr : Readable c.rules) {x : Notation} (hmem : x ∈ table c.rules) (hlead : x.lead = [])
    (he : Plain c e) (ha : allowed (rankOf c.rules e) x.rank) (k : List Token) :
    Ends c.rules e ((wordsOf x.led).map .word ++ k) := by
  cases he with
  | atom h => exact .of_leaf _ h.leaf _
  | @operation op args hop hlen hargs =>
    intro y hy m hm z j hz
    rw [going?_led hr hmem hlead] at hz
    obtain ⟨rfl, -⟩ := Prod.mk.inj (Option.some.inj hz)
    obtain ⟨-, hrank⟩ := of_notation?_eq_some hy
    rw [rankOf, hrank] at ha
    exact hr.ledEnds x hmem hlead y (mem_table hop hy) m hm ha

section Operands

variable {op : Operator} {x : Notation} (hr : Readable c.rules) (hop : op ∈ readOperators)
  (hx : notation? c.rules op = some x)

include hr hop hx

theorem allowed_of_not_groups {i : Nat} {h : Hole} (he : Plain c e)
    (hright : regroups c.rules op → i = 0 ∨ e.head ≠ .operation op)
    (hg : x.groups c.rules i h e = false) :
    allowed (rankOf c.rules e) (limitAt x.rank i h.enclosed) := by
  obtain ⟨rfl, -⟩ := of_notation?_eq_some hx
  cases he with
  | atom h =>
    rw [rankOf_of_leaf _ h.leaf]
    rfl
  | @operation child args _ _ _ =>
    obtain ⟨enclosed, after⟩ := h
    cases enclosed with
    | true => exact allowed_none _
    | false =>
      have hnot : x.op ≠ .not := by
        intro hn
        simp [Notation.groups, Operand.needsParentheses, Expr.isAtomic, hn] at hg
      simp only [Notation.groups, Operand.needsParentheses, Expr.isAtomic, hnot, rankOf] at hg ⊢
      cases hinner : (c.rules.operators child).bind (·.rank) with
      | none => rfl
      | some inner =>
        cases houter : x.rank with
        | none => simp [hinner, houter] at hg
        | some outer =>
          have hboth : inner ≤ outer ∧
              (inner = outer → child = x.op ∧ (0 < i → x.op.isAssociative)) := by
            simpa [hinner, houter] using hg
          obtain ⟨hle, heq⟩ := hboth
          by_cases hi : i = 0
          · simpa [limitAt, hi, allowed] using hle
          · have hne : inner ≠ outer := by
              intro hio
              obtain ⟨hchild, hassoc⟩ := heq hio
              have hassoc' := hassoc (Nat.pos_of_ne_zero hi)
              have hregroups := hr.associative x (mem_table hop hx) hassoc' (by rw [houter]; rfl)
              obtain h0 | hhead := hright hregroups
              · exact hi h0
              · exact hhead (congrArg Expr.Head.operation hchild)
            have hlt : inner ≤ outer - 1 := by omega
            simpa [limitAt, hi, allowed] using hlt

theorem readHoles_tokens (hs : List Hole) (i : Nat) (es : List Expr) (k : List Token)
    (hclose : closesHoles (table c.rules) x.rank i hs) (hlen : hs.length = es.length)
    (he : ∀ e ∈ es, Plain c e ∧ ReadsAs c.rules e)
    (hright : regroups c.rules op → ∀ e ∈ es, e.head ≠ .operation op)
    (hopen : ∀ m ∈ openLimit? x.rank i hs, Stops (table c.rules) m k) :
    readHoles (table c.rules) x.rank i hs (tokensFrom c.rules x i hs es ++ k) = some (es, k) := by
  induction hs generalizing i es with
  | nil =>
    obtain rfl : es = [] := List.eq_nil_of_length_eq_zero hlen.symm
    rw [readHoles]
    rfl
  | cons h hs ih =>
    cases es with
    | nil => simp at hlen
    | cons e es =>
      obtain ⟨hplain, hread⟩ := he e (by simp)
      -- what stands behind the operand stops it
      have hstops : Stops (table c.rules) (limitAt x.rank i h.enclosed)
          ((wordsOf h.after).map .word ++ (tokensFrom c.rules x (i + 1) hs es ++ k)) := by
        obtain hafter | hcloses := closes_of_closesHoles hclose
        · obtain ⟨hafter, rfl⟩ := hafter
          obtain rfl : es = [] := List.eq_nil_of_length_eq_zero (by simpa using hlen.symm)
          rw [hafter]
          exact hopen _ (by simp [openLimit?, hafter])
        · exact Stops.of_closes hcloses _ hr.led_ne_nil
      have hrest := ih (i + 1) es (closesHoles_tail hclose) (by simpa using hlen)
        (fun f hf => he f (by simp [hf])) (fun hre f hf => hright hre f (by simp [hf]))
        fun m hm => hopen m (openLimit?_cons hm)
      have hwithin := allowed_of_not_groups hr hop hx (i := i) (h := h) hplain
        fun hre => .inr (hright hre e (by simp))
      have hfirst := readAt_grouped hr hplain hread (x.groups c.rules i h e) _ _ hwithin
        fun hg => hplain.ends_of_stops hr (hwithin hg) hstops
      rw [goOn_of_stops hstops] at hfirst
      have hpos := ((hplain.begins hr).grouped (x.groups c.rules i h e)).length_pos
      rw [tokensFrom_cons, List.append_assoc, List.append_assoc, readHoles, hfirst]
      simp only [strip?_append, hrest]
      rw [if_pos]
      simp only [List.length_append]
      omega

theorem readAt_lead (hlead : x.lead ≠ []) {args : List Expr} {m : Limit} {k : List Token}
    (ha : allowed x.rank m) (hbegins : Begins c.rules (tokensFrom c.rules x 0 x.holes args))
    (hholes : readHoles (table c.rules) x.rank 0 x.holes (tokensFrom c.rules x 0 x.holes args ++ k) =
      some (args, k)) :
    readAt (table c.rules) m (tokens c.rules (.operation op args) ++ k) =
      goOn (table c.rules) m (.operation op args) k := by
  have hmem := mem_table hop hx
  obtain ⟨w, ws, hw⟩ := List.exists_cons_of_ne_nil (hr.leadWords x hmem hlead)
  obtain ⟨s, ts, hts, hs⟩ := hbegins
  have hparen : w ≠ openParen := by
    have hopens := hr.leadOpens x hmem
    rw [hw] at hopens
    simpa using hopens
  have hleading := leading?_lead hr hmem hlead hs (ts ++ k)
  rw [hw] at hleading
  rw [hts] at hholes
  obtain ⟨rfl, -⟩ := of_notation?_eq_some hx
  rw [tokens_operation hx, hts, hw]
  simp only [List.map_cons, List.cons_append, List.append_assoc] at hleading hholes ⊢
  rw [readAt, if_neg hparen, hleading]
  simp only [ha, hholes]
  have hlen : (s :: (ts ++ k)).length ≤ (ws.map Token.word ++ s :: (ts ++ k)).length := by
    rw [List.length_append]
    omega
  have hlen' : k.length ≤ (ws.map Token.word ++ s :: (ts ++ k)).length := by
    simp only [List.length_append, List.length_cons]
    omega
  rw [if_pos ⟨trivial, hlen⟩, if_pos hlen']

theorem readAt_led (hlead : x.lead = []) {h : Hole} {hs : List Hole} (hholes : x.holes = h :: hs)
    {es : List Expr} {m : Limit} {k : List Token} (ha : allowed x.rank m) (he : Plain c e)
    (hread : ReadsAs c.rules e)
    (hrest : readHoles (table c.rules) x.rank 1 hs (tokensFrom c.rules x 1 hs es ++ k) = some (es, k)) :
    readAt (table c.rules) m (tokens c.rules (.operation op (e :: es)) ++ k) =
      goOn (table c.rules) m (.operation op (e :: es)) k := by
  have hmem := mem_table hop hx
  have hled : x.led = h.after := by simp [Notation.led, hholes]
  have htail : x.holes.tail = hs := by rw [hholes]; rfl
  obtain ⟨j, hj, hfirst⟩ := hr.ledFirst x hmem hlead
  have hrank : x.rank = some j := hj
  have hwithin : x.groups c.rules 0 h e = false → allowed (rankOf c.rules e) (some j) := by
    intro hg
    rw [← hfirst h (by simp [hholes])]
    exact allowed_of_not_groups hr hop hx he (fun _ => .inl rfl) hg
  have hoperand := readAt_grouped hr he hread (x.groups c.rules 0 h e) m
    ((wordsOf x.led).map .word ++ (tokensFrom c.rules x 1 hs es ++ k))
    (fun hg => allowed_trans (hwithin hg) (hrank ▸ ha))
    fun hg => ends_of_led hr hmem hlead he (hrank ▸ hwithin hg) _
  have hgoing := going?_led hr hmem hlead (tokensFrom c.rules x 1 hs es ++ k)
  have hpos := List.length_pos_of_ne_nil (hr.led_ne_nil x hmem hlead)
  obtain ⟨rfl, -⟩ := of_notation?_eq_some hx
  have htokens : tokens c.rules (.operation x.op (e :: es)) ++ k =
      groupedTokens (x.groups c.rules 0 h e) (tokens c.rules e) ++
        ((wordsOf x.led).map .word ++ (tokensFrom c.rules x 1 hs es ++ k)) := by
    rw [tokens_operation hx, hholes, tokensFrom_cons, hlead, ← hled]
    simp only [List.append_assoc]
    rfl
  rw [htokens, hoperand, goOn, hgoing]
  simp only [ha, htail, hrest]
  rw [if_pos trivial, if_pos, if_pos]
  · simp only [List.length_append, List.length_map]
    omega
  · simp only [List.length_append, List.length_map]
    omega

end Operands

theorem Leaning.readsAs (hr : Readable c.rules) (h : Leaning c e) : ReadsAs c.rules e := by
  induction h with
  | @atom e h =>
    intro m k _ _
    rw [tokens_of_leaf h.leaf, List.singleton_append, readAt]
  | @operation op args hop hlen hargs hright ih =>
    intro m k ha hends
    obtain ⟨x, hx, hlength⟩ := hr.written op hop
    obtain ⟨-, hrank⟩ := of_notation?_eq_some hx
    have hmem := mem_table hop hx
    have hstops := hends x hx
    rw [rankOf, hrank] at ha
    have he : ∀ e ∈ args, Plain c e ∧ ReadsAs c.rules e := fun e he => ⟨(hargs e he).plain, ih e he⟩
    by_cases hlead : x.lead = []
    · obtain ⟨h, hs, hholes⟩ := List.exists_cons_of_ne_nil (holes_ne_nil hlength)
      rw [hholes, ← hlen] at hlength
      cases args with
      | nil => simp at hlength
      | cons e es =>
        have hclose := hr.ledCloses x hmem hlead
        rw [hholes, List.tail_cons] at hclose
        have hopen : ∀ m ∈ openLimit? x.rank 1 hs, Stops (table c.rules) m k := by
          intro m hm
          refine hstops m ?_
          rw [Notation.openLimit?, hholes]
          exact openLimit?_cons hm
        have hrest := readHoles_tokens hr hop hx hs 1 es k hclose (by simpa using hlength)
          (fun f hf => he f (by simp [hf])) hright hopen
        exact readAt_led hr hop hx hlead hholes ha (he e (by simp)).1 (he e (by simp)).2 hrest
    · -- operators that are regrouped begin with an operand
      have hnot : regroups c.rules op → ∀ e ∈ args, e.head ≠ .operation op := by
        intro hre
        obtain ⟨y, hy, hylead, -⟩ := hr.regrouped op hop hre
        obtain rfl : x = y := Option.some.inj (hx.symm.trans hy)
        exact absurd hylead hlead
      have hall := hlength.trans hlen.symm
      have hbegins := Begins.tokensFrom (r := c.rules) x 0 (holes_ne_nil hlength) hall
        fun e he => (hargs e he).plain.begins hr
      have hrest := readHoles_tokens hr hop hx x.holes 0 args k (hr.leadCloses x hmem hlead) hall he hnot
        hstops
      exact readAt_lead hr hop hx hlead ha hbegins hrest

theorem Leaning.read_tokens (hr : Readable c.rules) (h : Leaning c e) :
    read (table c.rules) (tokens c.rules e) = some e := by
  have hnil : Stops (table c.rules) none [] := Stops.nil hr
  have hends := h.plain.ends_of_stops hr (allowed_none _) hnil
  have hread := h.readsAs hr none [] (allowed_none _) hends
  rw [List.append_nil, goOn_of_stops hnil] at hread
  rw [read, hread]

end QueryText.Reading
