import QueryText.Proofs.Literals.Quotes
import QueryText.Proofs.Columns.Ambiguity
import QueryText.Proofs.Places.Address

namespace QueryText

namespace Rules

open Text

def spellsReserved (r : Rules) (word : List Char) : Bool :=
  r.reserved.any fun k => k.toList.map Char.toUpper == word.map Char.toUpper

/-- An identifier that stands for that name: the name itself where it is a plain one and no reserved
word, or the name between quotes. -/
inductive Token (r : Rules) : String → List Char → Prop where
  | plain {n : String} (hplain : isPlainName n.toList = true)
      (hfree : r.spellsReserved n.toList = false) : Token r n n.toList
  | quoted {q : Char} (hq : r.identifierQuote = some q) (n : String) :
      Token r n (Quoted.quote q n).toList

/-- Identifiers that stand for those names, with dots between them. -/
inductive Dotted (r : Rules) : List String → List Char → Prop where
  | last {n : String} {t : List Char} (h : r.Token n t) : Dotted r [n] t
  | cons {n : String} {ns : List String} {t cs : List Char} (h : r.Token n t) (hs : Dotted r ns cs) :
      Dotted r (n :: ns) (t ++ '.' :: cs)

/-- The plain word in front, as long as it can be, unless it is reserved; and what follows it. -/
def word? (r : Rules) (cs : List Char) : Option (List Char × List Char) :=
  let word := cs.takeWhile isNameChar
  if isPlainName word && !r.spellsReserved word then some (word, cs.dropWhile isNameChar) else none

/-- The name that the identifier in front stands for, and what follows it. -/
def token? (r : Rules) (cs : List Char) : Option (List Char × List Char) :=
  (r.identifierQuote.bind fun q => Quoted.token? q cs).or (r.word? cs)

variable {r : Rules} {q : Char} {n : String} {ns : List String} {t cs rest : List Char}

theorem length_token? (h : r.token? cs = some (t, rest)) : rest.length < cs.length := by
  rcases Option.or_eq_some_iff.mp h with h | ⟨-, h⟩
  · obtain ⟨q, -, hq⟩ := Option.bind_eq_some_iff.mp h
    exact Quoted.length_token? hq
  · obtain ⟨hword, h⟩ := Option.ite_none_right_eq_some.mp h
    obtain ⟨-, rfl⟩ := Prod.mk.inj (Option.some.inj h)
    rw [Bool.and_eq_true] at hword
    have hne := List.length_pos_iff.mpr (isNameChar_of_isPlainName hword.1).1
    have hlength := congrArg List.length (List.takeWhile_append_dropWhile (p := isNameChar) (l := cs))
    rw [List.length_append] at hlength
    omega

/-- The names in a text that is identifiers with dots between them. -/
def split? (r : Rules) (cs : List Char) : Option (List String) :=
  match _h : r.token? cs with
  | some (n, []) => some [String.ofList n]
  | some (n, '.' :: rest) => (r.split? rest).map (String.ofList n :: ·)
  | _ => none
termination_by cs.length
decreasing_by
  have hlt := length_token? _h
  simp only [List.length_cons] at hlt
  omega

theorem split?_last (h : r.token? cs = some (n.toList, [])) : r.split? cs = some [n] := by
  rw [split?]
  split <;> simp_all

theorem split?_dot (h : r.token? cs = some (n.toList, '.' :: rest)) :
    r.split? cs = (r.split? rest).map (n :: ·) := by
  rw [split?]
  split <;> simp_all

theorem token?_of_token (hr : r.Quotes q) (h : r.Token n t) (hrest : ∀ c ∈ rest.head?, c = '.') :
    r.token? (t ++ rest) = some (n.toList, rest) := by
  cases h with
  | plain hplain hfree =>
    have hspan := span_isNameChar (isNameChar_of_isPlainName hplain).2 hrest
    have hquoted : Quoted.token? q (n.toList ++ rest) = none :=
      if_neg (head_ne_of_isPlainName hr hplain rest)
    have hword : r.word? (n.toList ++ rest) = some (n.toList, rest) := by
      simp only [word?, hspan, hplain, hfree, Bool.not_false, Bool.and_self, if_true]
    simp only [token?, hr.quote, Option.bind_some, hquoted, hword, Option.none_or]
  | quoted hq n =>
    obtain rfl := Option.some.inj (hr.quote.symm.trans hq)
    have hhead : rest.head? ≠ some q := fun he => hr.notDot (hrest q he)
    simp only [token?, hr.quote, Option.bind_some, (Quoted.token?_quote_iff n).mpr hhead, Option.some_or]

theorem split?_of_dotted (hr : r.Quotes q) (h : r.Dotted ns cs) : r.split? cs = some ns := by
  induction h with
  | @last n t h =>
    have hread : r.token? (t ++ []) = some (n.toList, []) := token?_of_token hr h (by simp)
    rw [List.append_nil] at hread
    exact split?_last hread
  | cons h hs ih =>
    rw [split?_dot (token?_of_token hr h (by simp)), ih]
    rfl

def Capitals (r : Rules) : Prop :=
  ∀ k ∈ r.reserved, k.toList.map Char.toUpper = k.toList

theorem capitals_of_sql (d : Dialect) (h : (ofDialect d).grammar = .sql) : (ofDialect d).Capitals := by
  have hsql : ∀ k ∈ sqlReserved ++ mysqlReserved ++ postgresReserved,
      k.toList.map Char.toUpper = k.toList := by decide
  simp only [List.mem_append] at hsql
  cases d with
  | ansi | derby => exact fun k hk => hsql k (.inl (.inl hk))
  | mysql => exact fun k hk => hsql k (.inl (List.mem_append.mp hk))
  | postgres => exact fun k hk => hsql k ((List.mem_append.mp hk).imp_left .inl)
  | jpql | jdoql => cases h

theorem isReserved_of_spellsReserved (hr : r.Capitals) (h : r.spellsReserved n.toList = true) :
    r.isReserved n = true := by
  obtain ⟨k, hk, hn⟩ := List.any_eq_true.mp h
  rw [beq_iff_eq, hr k hk] at hn
  rw [isReserved, ← hn, String.ofList_toList, List.contains_iff_mem]
  exact hk

theorem token_identifier (hq : r.Quotes q) (hr : r.Capitals) (n : String) :
    r.Token n (r.identifier n).toList := by
  unfold identifier
  rw [hq.quote]
  dsimp only
  split
  · rename_i hplain
    rw [Bool.and_eq_true, Bool.not_eq_true'] at hplain
    have hfree : r.spellsReserved n.toList = false :=
      Bool.eq_false_iff.mpr fun h => by simp [isReserved_of_spellsReserved hr h] at hplain
    exact .plain hplain.1 hfree
  · exact .quoted hq.quote n

theorem dotted_identifiers (hq : r.Quotes q) (hr : r.Capitals) (hne : ns ≠ []) :
    r.Dotted ns (r.identifiers ns).toList := by
  induction ns with
  | nil => exact absurd rfl hne
  | cons n ns ih =>
    rw [toList_identifiers_cons]
    cases ns with
    | nil => simpa [following] using Dotted.last (token_identifier hq hr n)
    | cons m ms => exact .cons (token_identifier hq hr n) (ih (List.cons_ne_nil m ms))

end Rules

namespace Render.Operand

variable {c : Context}

theorem pathText_eq_identifiers (hbare : c.bareColumns = false) (hcandidate : c.candidate = none)
    (p : Path) : pathText c p = c.rules.identifiers p.names := by
  induction p with
  | root n k => simp [pathText, hcandidate, Path.names, Rules.identifiers]
  | child p n r k ih =>
    rw [pathText, hbare, Path.names, Rules.identifiers_concat p.names_ne_nil, ih]
    rfl

/-- Wherever a relational query writes a path, its variable in front, the text can be read as identifiers
with dots between them in one way, by the names from the root to the column. -/
theorem pathText_split (d : Dialect) (hd : (Rules.ofDialect d).grammar = .sql) {mode : Mode}
    {inlining : Bool} {scopes : List ParamMap} {around : List (Select Expr)}
    (hc : (Context.of (.ofDialect d) mode inlining scopes).Leads c around) (p : Path) :
    (Rules.ofDialect d).split? (pathText c p).toList = some p.names ∧
      (∀ ns, (Rules.ofDialect d).Dotted ns (pathText c p).toList ↔ ns = p.names) ∧
      ∀ (around' : List (Select Expr)) (c' : Context),
        (Context.of (.ofDialect d) mode inlining scopes).Leads c' around' →
          ∀ p' : Path, pathText c' p' = pathText c p → p'.names = p.names := by
  obtain ⟨q, hq⟩ := Rules.quotes_of_sql d hd
  -- only a change leaves the variable out, and only an object query has a candidate
  have htext {around' : List (Select Expr)} {c' : Context}
      (hc' : (Context.of (.ofDialect d) mode inlining scopes).Leads c' around') (p' : Path) :
      pathText c' p' = (Rules.ofDialect d).identifiers p'.names := by
    have hcandidate : c'.candidate = none := by
      rw [hc'.candidate]
      split <;> rfl
    rw [pathText_eq_identifiers hc'.bareColumns hcandidate, hc'.rules]
    rfl
  have hdotted := Rules.dotted_identifiers hq (Rules.capitals_of_sql d hd) p.names_ne_nil
  have hsplit := Rules.split?_of_dotted hq hdotted
  rw [htext hc]
  refine ⟨hsplit, fun ns => ⟨fun h => ?_, fun h => h ▸ hdotted⟩, fun around' c' hc' p' heq => ?_⟩
  · exact Option.some.inj ((Rules.split?_of_dotted hq h).symm.trans hsplit)
  · rw [htext hc'] at heq
    exact Rules.identifiers_injective hq p'.names_ne_nil p.names_ne_nil heq

/-- A reserved word, a dot and a quote inside of names, and a name without characters. -/
theorem pathText_split_irregular :
    let c := Context.of (.ofDialect .mysql) .resolving false []
    let p := ["a.b", "", "x\x60.\x60y", "selects"].foldl (·.property · .text) (Path.root "Select" .any)
    (Rules.ofDialect .mysql).grammar = .sql ∧ c.Leads c [] ∧
      pathText c p = "\x60Select\x60.\x60a.b\x60.\x60\x60.\x60x\x60\x60.\x60\x60y\x60.selects" ∧
      (Rules.ofDialect .mysql).split? (pathText c p).toList =
        some ["Select", "a.b", "", "x\x60.\x60y", "selects"] := by
  intro c p
  have hc : c.Leads c [] := .refl c
  exact ⟨rfl, hc, by decide, (pathText_split .mysql rfl hc p).1⟩

end Render.Operand

end QueryText
