import QueryText.Dialect.Presets
import QueryText.Dialect.Literal
import QueryText.Proofs.Columns.Naming

namespace QueryText

namespace Text.Quoted

variable {q e c d : Char} {s cs rest : List Char}

theorem map_cons_eq_some {o : Option (List Char × List Char)} :
    (o.map fun x => (c :: x.1, x.2)) = some (s, rest) ↔ ∃ t, s = c :: t ∧ o = some (t, rest) := by
  cases o with
  | none => simp
  | some x =>
    obtain ⟨t, r⟩ := x
    simp only [Option.map_some, Option.some.injEq, Prod.mk.injEq]
    constructor
    · rintro ⟨rfl, rfl⟩
      exact ⟨t, rfl, rfl, rfl⟩
    · rintro ⟨t, rfl, rfl, rfl⟩
      exact ⟨rfl, rfl⟩

/-- What the quoted token in front says, and what follows the token. -/
def token? (q : Char) (cs : List Char) : Option (List Char × List Char) :=
  if cs.head? = some q then unquote? q cs.tail else none

theorem unquote?_doubled_iff :
    unquote? q (doubled q s ++ q :: rest) = some (s, rest) ↔ rest.head? ≠ some q := by
  refine ⟨fun h hrest => ?_, unquote?_doubled s⟩
  induction s with
  | nil =>
    obtain ⟨ds, rfl⟩ := List.head?_eq_some_iff.mp hrest
    simp [doubled, unquote?] at h
  | cons c s ih =>
    have hs : unquote? q (doubled q s ++ q :: rest) = some (s, rest) := by
      by_cases hc : c = q
      · simpa [doubled, hc, unquote?, map_cons_eq_some] using h
      · simpa [doubled, hc, unquote?_cons, map_cons_eq_some] using h
    exact ih hs

theorem token?_quote_iff (s : String) :
    token? q ((quote q s).toList ++ rest) = some (s.toList, rest) ↔ rest.head? ≠ some q := by
  rw [← unquote?_doubled_iff (s := s.toList)]
  simp [token?, quote]

theorem length_unquote? (h : unquote? q cs = some (s, rest)) : rest.length < cs.length := by
  fun_induction unquote? q cs generalizing s with
  | case1 => cases h
  | case2 | case4 =>
    obtain ⟨-, rfl⟩ := Prod.mk.inj (Option.some.inj h)
    simp
  | case3 ds ih =>
    obtain ⟨t, -, ht⟩ := map_cons_eq_some.mp h
    exact (ih ht).trans (by simp only [List.length_cons]; omega)
  | case5 c cs hc ih =>
    obtain ⟨t, -, ht⟩ := map_cons_eq_some.mp h
    exact (ih ht).trans (by simp)

theorem length_token? (h : token? q cs = some (s, rest)) : rest.length < cs.length := by
  cases cs with
  | nil => simp [token?] at h
  | cons c cs =>
    obtain ⟨-, h⟩ := Option.ite_none_right_eq_some.mp h
    exact (length_unquote? h).trans (Nat.lt_succ_self cs.length)

/-- What the tokens up to the closing parenthesis say, and what follows it. -/
def items? (q : Char) (cs : List Char) : Option (List (List Char) × List Char) :=
  match _h : token? q cs with
  | some (s, ')' :: rest) => some ([s], rest)
  | some (s, ',' :: ' ' :: rest) => (items? q rest).map fun x => (s :: x.1, x.2)
  | _ => none
termination_by cs.length
decreasing_by
  have hlt := length_token? _h
  simp only [List.length_cons] at hlt
  omega

/-- What the tokens between parentheses say, and what follows them. -/
def group? (q : Char) : List Char → Option (List (List Char) × List Char)
  | '(' :: ')' :: rest => some ([], rest)
  | '(' :: cs => items? q cs
  | _ => none

theorem items?_last (h : token? q cs = some (s, ')' :: rest)) : items? q cs = some ([s], rest) := by
  rw [items?]
  split <;> simp_all

theorem items?_comma (h : token? q cs = some (s, ',' :: ' ' :: rest)) :
    items? q cs = (items? q rest).map fun x => (s :: x.1, x.2) := by
  rw [items?]
  split <;> simp_all

def row (q : Char) (ss : List String) : String :=
  ", ".intercalate (ss.map (quote q))

theorem items?_row (hq : q ≠ ')' ∧ q ≠ ',') (s : String) (ss : List String) :
    items? q ((row q (s :: ss)).toList ++ ')' :: rest) = some ((s :: ss).map String.toList, rest) := by
  induction ss generalizing s with
  | nil =>
    have hs : token? q ((row q [s]).toList ++ ')' :: rest) = some (s.toList, ')' :: rest) := by
      simpa [row] using (token?_quote_iff s).mpr (by simpa using hq.1.symm)
    exact items?_last hs
  | cons t ts ih =>
    have hs : token? q ((row q (s :: t :: ts)).toList ++ ')' :: rest) =
        some (s.toList, ',' :: ' ' :: ((row q (t :: ts)).toList ++ ')' :: rest)) := by
      simpa [row, String.intercalate_cons_cons] using (token?_quote_iff s).mpr (by simpa using hq.2.symm)
    rw [items?_comma hs, ih t]
    rfl

theorem group?_row (hq : q ≠ ')' ∧ q ≠ ',') (ss : List String) :
    group? q (("(" ++ row q ss ++ ")").toList ++ rest) = some (ss.map String.toList, rest) := by
  cases ss with
  | nil => simp [row, group?]
  | cons s ss =>
    have hitems : items? q ((row q (s :: ss)).toList ++ ')' :: rest) =
        some ((s :: ss).map String.toList, rest) := items?_row hq s ss
    have hopen : (row q (s :: ss)).toList.head? = some q := by
      cases ss <;> simp [row, String.intercalate_cons_cons, quote]
    obtain ⟨cs, hcs⟩ := List.head?_eq_some_iff.mp hopen
    rw [hcs] at hitems
    simpa [hcs, group?, hq.1] using hitems

/-- As `unquote?`, where behind the escape character any character stands for itself. -/
def unescape? (e q : Char) : List Char → Option (List Char × List Char)
  | [] => none
  | c :: cs =>
    if c = q then
      match cs with
      | [] => some ([], [])
      | d :: ds => if d = q then (unescape? e q ds).map fun x => (q :: x.1, x.2) else some ([], d :: ds)
    else if c = e then
      match cs with
      | [] => none
      | d :: ds => (unescape? e q ds).map fun x => (d :: x.1, x.2)
    else (unescape? e q cs).map fun x => (c :: x.1, x.2)

/-- As `token?`, with an escape character. -/
def escapedToken? (e q : Char) (cs : List Char) : Option (List Char × List Char) :=
  if cs.head? = some q then unescape? e q cs.tail else none

theorem unescape?_plain (hq : c ≠ q) (he : c ≠ e) (cs : List Char) :
    unescape? e q (c :: cs) = (unescape? e q cs).map fun x => (c :: x.1, x.2) := by
  cases cs <;> simp [unescape?, hq, he]

theorem unescape?_escape (he : e ≠ q) (d : Char) (cs : List Char) :
    unescape? e q (e :: d :: cs) = (unescape? e q cs).map fun x => (d :: x.1, x.2) := by
  simp [unescape?, he]

theorem unescape?_twice (cs : List Char) :
    unescape? e q (q :: q :: cs) = (unescape? e q cs).map fun x => (q :: x.1, x.2) := by
  simp [unescape?]

theorem unescape?_end (h : rest.head? ≠ some q) : unescape? e q (q :: rest) = some ([], rest) := by
  cases rest with
  | nil => simp [unescape?]
  | cons d ds =>
    have hd : d ≠ q := fun hd => h (by simp [hd])
    simp [unescape?, hd]

theorem unescape?_doubled (hs : e ∉ s) (h : rest.head? ≠ some q) :
    unescape? e q (doubled q s ++ q :: rest) = some (s, rest) := by
  induction s with
  | nil => exact unescape?_end h
  | cons c s ih =>
    rw [List.mem_cons, not_or] at hs
    by_cases hq : c = q
    · simp [doubled, hq, unescape?_twice, ih hs.2]
    · simp [doubled, hq, unescape?_plain hq (Ne.symm hs.1), ih hs.2]

theorem length_doubled (q : Char) (s : List Char) : (doubled q s).length = s.length + s.count q := by
  induction s with
  | nil => rfl
  | cons c s ih =>
    by_cases hc : c = q
    · simp only [doubled, hc, beq_self_eq_true, ↓reduceIte, List.length_cons, List.count_cons_self]
      omega
    · simp only [doubled, beq_iff_eq, hc, ↓reduceIte, List.length_cons, List.count_cons_of_ne hc]
      omega

theorem count_doubled (q : Char) (s : List Char) : (doubled q s).count q = 2 * s.count q := by
  induction s with
  | nil => rfl
  | cons c s ih =>
    by_cases hc : c = q
    · simp only [doubled, hc, beq_self_eq_true, ↓reduceIte, List.count_cons_self]
      omega
    · simp only [doubled, beq_iff_eq, hc, ↓reduceIte, List.count_cons_of_ne hc, ih]

theorem length_unescape? (h : unescape? e q cs = some (s, rest)) :
    2 * s.length + cs.count q + 2 * rest.length + 1 ≤ 2 * cs.length + rest.count q := by
  fun_induction unescape? e q cs generalizing s with
  | case1 | case5 => cases h
  | case2 =>
    obtain ⟨rfl, rfl⟩ := Prod.mk.inj (Option.some.inj h)
    simp
  | case3 ds ih =>
    obtain ⟨t, rfl, ht⟩ := map_cons_eq_some.mp h
    have hle := ih ht
    simp only [List.length_cons, List.count_cons_self]
    omega
  | case4 d ds hd =>
    obtain ⟨rfl, rfl⟩ := Prod.mk.inj (Option.some.inj h)
    simp only [List.length_cons, List.length_nil, List.count_cons_self]
    omega
  | case6 d ds hq ih =>
    obtain ⟨t, rfl, ht⟩ := map_cons_eq_some.mp h
    have hle := ih ht
    have hd : (d :: ds).count q ≤ ds.count q + 1 := by
      rw [List.count_cons]
      split <;> omega
    rw [List.count_cons_of_ne hq]
    simp only [List.length_cons]
    omega
  | case7 c cs hq he ih =>
    obtain ⟨t, rfl, ht⟩ := map_cons_eq_some.mp h
    have hle := ih ht
    rw [List.count_cons_of_ne hq]
    simp only [List.length_cons]
    omega

theorem unescape?_doubled_ne_cons (c : Char) (s : List Char) :
    unescape? e q (doubled q s ++ q :: rest) ≠ some (c :: s, rest) := by
  intro h
  have hle := length_unescape? h
  simp only [List.length_append, List.length_cons, List.count_append, List.count_cons_self,
    length_doubled, count_doubled] at hle
  omega

theorem unescape?_doubled_escape_ne (he : e ≠ q) (s : List Char) :
    unescape? e q (doubled q (e :: s) ++ q :: rest) ≠ some (e :: s, rest) := by
  intro h
  have hhead (d : Char) (ds : List Char) (hds : doubled q s ++ q :: rest = d :: ds) :
      d = e ∧ unescape? e q ds = some (s, rest) := by
    simp only [doubled, beq_iff_eq, he, ↓reduceIte, List.cons_append, hds, unescape?_escape he,
      map_cons_eq_some, List.cons.injEq] at h
    obtain ⟨t, ⟨heq, rfl⟩, ht⟩ := h
    exact ⟨heq.symm, ht⟩
  cases s with
  | nil => exact he (hhead q rest rfl).1.symm
  | cons c s =>
    by_cases hc : c = q
    · -- the first of the two quotes is escaped, and what is read is no escape character
      exact he (hhead q (q :: (doubled q s ++ q :: rest)) (by simp [doubled, hc])).1.symm
    · obtain ⟨rfl, ht⟩ := hhead c (doubled q s ++ q :: rest) (by simp [doubled, hc])
      exact unescape?_doubled_ne_cons c s ht

theorem escape_notMem (he : e ≠ q) (h : unescape? e q (doubled q s ++ q :: rest) = some (s, rest)) :
    e ∉ s := by
  induction s with
  | nil => exact List.not_mem_nil
  | cons c s ih =>
    by_cases hc : c = e
    · exact absurd (hc ▸ h) (unescape?_doubled_escape_ne he s)
    · have hs : unescape? e q (doubled q s ++ q :: rest) = some (s, rest) := by
        by_cases hq : c = q
        · simpa [doubled, hq, unescape?_twice, map_cons_eq_some] using h
        · simpa [doubled, hq, unescape?_plain hq hc, map_cons_eq_some] using h
      exact List.not_mem_cons_of_ne_of_not_mem (Ne.symm hc) (ih hs)

theorem escapedToken?_quote_iff (he : e ≠ q) (s : String) (hrest : rest.head? ≠ some q) :
    escapedToken? e q ((quote q s).toList ++ rest) = some (s.toList, rest) ↔ e ∉ s.toList := by
  have hread : escapedToken? e q ((quote q s).toList ++ rest) =
      unescape? e q (doubled q s.toList ++ q :: rest) := by
    simp [escapedToken?, quote]
  rw [hread]
  exact ⟨escape_notMem he, fun hs => unescape?_doubled hs hrest⟩

end Text.Quoted

namespace Rules

open Text

variable {r : Rules}

theorem literalAll_text (ss : List String) :
    r.literalAll (ss.map .text) = .ok (ss.map quotedText) := by
  induction ss with
  | nil => rfl
  | cons s ss ih => simp only [List.map_cons, literalAll, literal, ih]

theorem literal_texts {ss : List String} {l : String} (h : r.literal (.list (ss.map .text)) = .ok l) :
    l = "(" ++ Quoted.row '\x27' ss ++ ")" := by
  rw [literal, literalAll_text] at h
  split at h
  · exact (Except.ok.inj h).symm
  · cases h

theorem group?_literal {ss : List String} {l : String} (h : r.literal (.list (ss.map .text)) = .ok l)
    (rest : String) :
    Quoted.group? '\x27' (l ++ rest).toList = some (ss.map String.toList, rest.toList) := by
  rw [literal_texts h, String.toList_append]
  exact Quoted.group?_row (by decide) ss

/-- A text literal says its text and ends where it was written, before anything but a quote; a list of
them says its texts, and has no others. -/
theorem literal_selfDelimiting (r : Rules) :
    (∀ s rest : String, ∃ l, r.literal (.text s) = .ok l ∧
      (Quoted.token? '\x27' (l ++ rest).toList = some (s.toList, rest.toList) ↔
        rest.toList.head? ≠ some '\x27')) ∧
    (r.flattensLists = true → ∀ ss : List String, ∃ l, r.literal (.list (ss.map .text)) = .ok l ∧
      ∀ rest : String, Quoted.group? '\x27' (l ++ rest).toList =
        some (ss.map String.toList, rest.toList)) ∧
    ∀ (ss ts : List String) (l k rest other : String), r.literal (.list (ss.map .text)) = .ok l →
      r.literal (.list (ts.map .text)) = .ok k → l ++ rest = k ++ other → ss = ts ∧ rest = other := by
  refine ⟨fun s rest => ⟨_, rfl, ?_⟩, fun hr ss => ?_, fun ss ts l k rest other hl hk heq => ?_⟩
  · rw [String.toList_append]
    exact Quoted.token?_quote_iff s
  · have hl : ∃ l, r.literal (.list (ss.map .text)) = .ok l := by
      rw [literal, literalAll_text, if_pos hr]
      exact ⟨_, rfl⟩
    obtain ⟨l, hl⟩ := hl
    exact ⟨l, hl, group?_literal hl⟩
  · have hss := group?_literal hl rest
    rw [heq, group?_literal hk other, Option.some.injEq, Prod.mk.injEq, String.toList_inj] at hss
    exact ⟨((List.map_inj_right fun _ _ => String.toList_inj.mp).mp hss.1).symm, hss.2.symm⟩

/-- Empty texts, quotes at either end and a quote alone. -/
theorem literal_selfDelimiting_quotes :
    (ofDialect .ansi).flattensLists = true ∧
    (ofDialect .ansi).literal (.list (["it's", "'", ""].map .text)) = .ok "('it''s', '''', '')" ∧
    Quoted.group? '\x27' ("('it''s', '''', '')" ++ " or 'x'").toList =
      some (["it's", "'", ""].map String.toList, " or 'x'".toList) := by
  obtain ⟨l, hl, hgroup⟩ := (literal_selfDelimiting (ofDialect .ansi)).2.1 rfl ["it's", "'", ""]
  have htext : "(" ++ Quoted.row '\x27' ["it's", "'", ""] ++ ")" = "('it''s', '''', '')" := by decide
  rw [← htext, ← literal_texts hl]
  exact ⟨rfl, hl, hgroup " or 'x'"⟩

/-- Where a backslash escapes, the literal says its text exactly if no backslash is in it. -/
theorem literal_escaped_iff (s rest : String) (hrest : rest.toList.head? ≠ some '\x27') :
    ∃ l, (ofDialect .mysql).literal (.text s) = .ok l ∧
      (Quoted.escapedToken? '\x5c' '\x27' (l ++ rest).toList = some (s.toList, rest.toList) ↔
        '\x5c' ∉ s.toList) := by
  refine ⟨_, rfl, ?_⟩
  rw [String.toList_append]
  exact Quoted.escapedToken?_quote_iff (by decide) s hrest

theorem literal_escaped_iff_its :
    " -- ".toList.head? ≠ some '\x27' ∧ '\x5c' ∉ "it's".toList ∧
      ∃ l, (ofDialect .mysql).literal (.text "it's") = .ok l ∧
        Quoted.escapedToken? '\x5c' '\x27' (l ++ " -- ").toList = some ("it's".toList, " -- ".toList) := by
  have hrest : " -- ".toList.head? ≠ some '\x27' := by decide
  have hs : '\x5c' ∉ "it's".toList := by decide
  obtain ⟨l, hl, hiff⟩ := literal_escaped_iff "it's" " -- " hrest
  exact ⟨hrest, hs, l, hl, hiff.mpr hs⟩

/-- The first quote of the text is escaped, the second one closes the literal. -/
theorem literal_brokenOut :
    (ofDialect .mysql).literal (.text "\x5c' or 1 = 1 -- ") = .ok "'\x5c'' or 1 = 1 -- '" ∧
      Quoted.escapedToken? '\x5c' '\x27' "'\x5c'' or 1 = 1 -- '".toList =
        some (['\x27'], " or 1 = 1 -- '".toList) := by
  have htext : quotedText "\x5c' or 1 = 1 -- " = "'\x5c'' or 1 = 1 -- '" := by decide
  exact ⟨congrArg Except.ok htext, by decide +kernel⟩

end Rules

end QueryText
