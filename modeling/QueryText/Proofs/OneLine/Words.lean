import QueryText.Proofs.Comments.Literals
import QueryText.Proofs.Counting.Heads
import QueryText.Proofs.Patterns.OneLine

namespace QueryText

def Unbroken (s : String) : Prop :=
  '\n' ∉ s.toList

instance (s : String) : Decidable (Unbroken s) :=
  inferInstanceAs (Decidable (¬_))

theorem foreign_break : Foreign '\n' :=
  ⟨by decide, by decide, by decide⟩

theorem Unbroken.append {s t : String} (hs : Unbroken s) (ht : Unbroken t) : Unbroken (s ++ t) :=
  notMem_append hs ht

theorem spaced_append (s t : String) : spaced (s ++ t) = spaced s ++ spaced t := by
  rw [← String.toList_inj]
  simp [spaced]

theorem spaced_eq_self {s : String} (h : Unbroken s) : spaced s = s := by
  have hkept : ∀ c ∈ s.toList, spacedChar c = c := by
    intro c hc
    refine if_neg fun he => h ?_
    rwa [← show c = '\n' by simpa using he]
  rw [spaced, List.map_congr_left hkept, List.map_id', String.ofList_toList]

theorem unbroken_nat (n : Nat) : Unbroken (toString n) :=
  foreign_break.notMem_nat n

theorem unbroken_quote {q : Char} (hq : q ≠ '\n') {s : String} (hs : Unbroken s) :
    Unbroken (Text.Quoted.quote q s) := by
  have hdoubled (cs : List Char) (hcs : '\n' ∉ cs) : '\n' ∉ Text.Quoted.doubled q cs := by
    induction cs with
    | nil => exact hcs
    | cons c cs ih =>
      simp only [List.mem_cons, not_or] at hcs
      obtain ⟨hc, hcs⟩ := hcs
      unfold Text.Quoted.doubled
      split
      · simp [hq.symm, ih hcs]
      · simp [hc, ih hcs]
  rw [Unbroken, Text.Quoted.quote, String.toList_ofList]
  simp [hq.symm, hdoubled _ hs]

mutual

def Value.Unbroken : Value → Prop
  | .text s => QueryText.Unbroken s
  | .list items => Value.AllUnbroken items
  | .null | .bool _ | .int _ | .uint _ | .float _ | .date _ | .dateTime _ | .time _ | .bytes _ => True

def Value.AllUnbroken : List Value → Prop
  | [] => True
  | v :: vs => v.Unbroken ∧ Value.AllUnbroken vs

end

mutual

instance Value.decidableUnbroken : (v : Value) → Decidable v.Unbroken
  | .text s => inferInstanceAs (Decidable (QueryText.Unbroken s))
  | .list items => Value.decidableAllUnbroken items
  | .null | .bool _ | .int _ | .uint _ | .float _ => .isTrue trivial
  | .date _ | .dateTime _ | .time _ | .bytes _ => .isTrue trivial

instance Value.decidableAllUnbroken : (vs : List Value) → Decidable (Value.AllUnbroken vs)
  | [] => .isTrue trivial
  | v :: vs => @instDecidableAnd _ _ v.decidableUnbroken (Value.decidableAllUnbroken vs)

end

theorem Value.Unbroken.text? {v : Value} (h : v.Unbroken) {s : String} (hs : v.text? = some s) :
    QueryText.Unbroken s := by
  cases v with
  | text t => exact Option.some.inj hs ▸ h
  | _ => cases hs

structure Entity.Unbroken (e : Entity) : Prop where
  typeName : QueryText.Unbroken e.typeName
  table : QueryText.Unbroken e.table
  schema : ∀ s ∈ e.schema, QueryText.Unbroken s

instance (e : Entity) : Decidable e.Unbroken :=
  decidable_of_iff
    (QueryText.Unbroken e.typeName ∧ QueryText.Unbroken e.table ∧ ∀ s ∈ e.schema, QueryText.Unbroken s)
    ⟨fun h => ⟨h.1, h.2.1, h.2.2⟩, fun h => ⟨h.typeName, h.table, h.schema⟩⟩

theorem Entity.Unbroken.simpleName {e : Entity} (h : e.Unbroken) : QueryText.Unbroken e.simpleName := by
  rw [QueryText.Unbroken, Entity.simpleName, String.toList_ofList]
  intro hmem
  have hsuffix := (List.takeWhile_prefix fun c => c != '.' && c != ':').subset (List.mem_reverse.mp hmem)
  exact h.typeName (List.mem_reverse.mp hsuffix)

/-- No name in the path has a line break, nor has one of an entity that it leads to. -/
def Path.Unbroken : Path → Prop
  | .root n k => QueryText.Unbroken n ∧ ∀ e ∈ k.entity?, e.Unbroken
  | .child p n _ k => p.Unbroken ∧ QueryText.Unbroken n ∧ ∀ e ∈ k.entity?, e.Unbroken

instance Path.decidableUnbroken : (p : Path) → Decidable p.Unbroken
  | .root n k => inferInstanceAs (Decidable (QueryText.Unbroken n ∧ ∀ e ∈ k.entity?, e.Unbroken))
  | .child p n _ k =>
    have := p.decidableUnbroken
    inferInstanceAs (Decidable (p.Unbroken ∧ QueryText.Unbroken n ∧ ∀ e ∈ k.entity?, e.Unbroken))

theorem Path.Unbroken.name {p : Path} (h : p.Unbroken) : QueryText.Unbroken p.name := by
  cases p with
  | root n k => exact h.1
  | child p n r k => exact h.2.1

theorem Path.Unbroken.entity {p : Path} (h : p.Unbroken) {e : Entity} (he : p.entity? = some e) :
    e.Unbroken := by
  cases p with
  | root n k => exact h.2 e he
  | child p n r k => exact h.2.2 e he

theorem Path.Unbroken.rootEntity {p : Path} (h : p.Unbroken) {e : Entity} (he : p.rootEntity? = some e) :
    e.Unbroken := by
  cases p with
  | root n k => exact h.2 e he
  | child p n r k => cases he

namespace Rules

variable {r : Rules}

/-- Between clauses stands a break or a blank, and the words of the dialect have no breaks in them. -/
structure Spaceable (r : Rules) : Prop where
  clauseBreak : spaced r.clauseBreak = " "
  keywords : ∀ k ∈ r.keywords.toList, ∀ s ∈ k, Unbroken s
  words : ∀ s ∈ r.literals.words, Unbroken s
  wraps : ∀ w ∈ r.literals.wraps, ∀ x ∈ w, Unbroken x.before ∧ Unbroken x.after
  quote : r.identifierQuote ≠ some '\n'
  escape : r.likeEscape ≠ some '\n'
  stem : ∀ s, r.placeholders = .named s → Unbroken s

theorem spaceable_ofDialect (d : Dialect) : (ofDialect d).Spaceable := by
  cases d with
  | ansi | derby | mysql | postgres =>
    exact ⟨by decide, by decide, by decide, by decide, by decide, by decide, nofun⟩
  | jpql => exact ⟨by decide, by decide, by decide, by decide, by decide, by decide, nofun⟩
  | jdoql =>
    refine ⟨by decide, by decide, by decide, by decide, by decide, by decide, ?_⟩
    rintro s ⟨⟩
    decide

theorem Derived.spaceable (h : r.Derived) : r.Spaceable := by
  induction h with
  | preset d => exact spaceable_ofDialect d
  | withOperator _ op pattern rank ih => exact { ih with }
  | withoutOperator _ op ih => exact { ih with }
  | onOneLine _ ih => exact { ih with clauseBreak := (by decide : spaced " " = " ") }

namespace Spaceable

theorem keyword (h : r.Spaceable) {s : String} (hs : some s ∈ r.keywords.toList) : Unbroken s :=
  h.keywords _ hs s rfl

theorem placeholder (h : r.Spaceable) (n : Nat) : Unbroken (r.placeholder n) := by
  unfold Rules.placeholder
  cases hp : r.placeholders with
  | question => exact (by decide : Unbroken "?")
  | dollar => exact Unbroken.append (s := "$") (by decide) (unbroken_nat n)
  | numberedQuestion => exact Unbroken.append (s := "?") (by decide) (unbroken_nat n)
  | named stem => exact ((show Unbroken ":" by decide).append (h.stem stem hp)).append (unbroken_nat n)

theorem identifier (h : r.Spaceable) {n : String} (hn : Unbroken n) : Unbroken (r.identifier n) := by
  unfold Rules.identifier
  cases hq : r.identifierQuote with
  | none => exact hn
  | some q =>
    dsimp only
    split
    · exact hn
    · refine unbroken_quote ?_ hn
      rintro rfl
      exact h.quote hq

theorem escapeLike (h : r.Spaceable) {s : String} (hs : Unbroken s) : Unbroken (r.escapeLike s) := by
  have hescape {e : Char} (he : e ≠ '\n') (cs : List Char) (hcs : '\n' ∉ cs) :
      '\n' ∉ escapeWildcards e cs := by
    induction cs with
    | nil => exact hcs
    | cons c cs ih =>
      simp only [List.mem_cons, not_or] at hcs
      obtain ⟨hc, hcs⟩ := hcs
      unfold escapeWildcards
      split
      · simp [he.symm, hc, ih hcs]
      · simp [hc, ih hcs]
  unfold Rules.escapeLike
  cases he : r.likeEscape with
  | none => exact hs
  | some e =>
    rw [Unbroken, String.toList_ofList]
    refine hescape ?_ _ hs
    rintro rfl
    exact h.escape he

theorem wrapped (h : r.Spaceable) {form : Option Wrap} (hform : form ∈ r.literals.wraps)
    {kind content s : String} (hc : Unbroken content) (hs : r.wrapped form kind content = .ok s) :
    Unbroken s := by
  cases form with
  | none => simp [Rules.wrapped, unsupported] at hs
  | some w =>
    obtain rfl := Except.ok.inj hs
    obtain ⟨hbefore, hafter⟩ := h.wraps _ hform w rfl
    exact (hbefore.append hc).append hafter

mutual

theorem literal (h : r.Spaceable) : (v : Value) → v.Unbroken → {s : String} → r.literal v = .ok s →
    Unbroken s
  | .null, _, s, hs => by
    obtain rfl : r.literals.null = s := Except.ok.inj hs
    exact h.words _ (by simp [LiteralForms.words])
  | .bool b, _, s, hs => by
    obtain rfl : (if b then r.literals.true else r.literals.false) = s := Except.ok.inj hs
    exact h.words _ (by cases b <;> simp [LiteralForms.words])
  | .int n, _, s, hs => by
    obtain rfl : toString n.toInt = s := Except.ok.inj hs
    exact foreign_break.notMem_int n.toInt
  | .uint n, _, s, hs => by
    obtain rfl : toString n.toNat = s := Except.ok.inj hs
    exact unbroken_nat n.toNat
  | .float x, _, s, hs => by
    simp only [Rules.literal, floatLiteral] at hs
    split at hs
    · next hx =>
      obtain rfl := Except.ok.inj hs
      exact foreign_break.notMem_float hx
    · cases hs
  | .text t, ht, s, hs => by
    obtain rfl : Text.Quoted.quote '\x27' t = s := Except.ok.inj hs
    exact unbroken_quote (by decide) ht
  | .date d, _, s, hs => h.wrapped (by simp [LiteralForms.wraps]) (foreign_break.notMem_date d) hs
  | .time t, _, s, hs => h.wrapped (by simp [LiteralForms.wraps]) (foreign_break.notMem_clock t) hs
  | .dateTime t, _, s, hs => h.wrapped (by simp [LiteralForms.wraps]) (foreign_break.notMem_dateTime t) hs
  | .bytes bs, _, s, hs => h.wrapped (by simp [LiteralForms.wraps]) (foreign_break.notMem_bytes bs) hs
  | .list items, hitems, s, hs => by
    simp only [Rules.literal] at hs
    split at hs
    · split at hs
      · next texts htexts =>
        obtain rfl := Except.ok.inj hs
        have hall : Unbroken (String.intercalate ", " texts) :=
          notMem_intercalate (by decide) (h.literals items hitems htexts)
        exact ((show Unbroken "(" by decide).append hall).append (by decide)
      · cases hs
    · cases hs

theorem literals (h : r.Spaceable) : (vs : List Value) → Value.AllUnbroken vs → {ts : List String} →
    r.literalAll vs = .ok ts → ∀ t ∈ ts, Unbroken t
  | [], _, ts, hs => by
    obtain rfl : [] = ts := Except.ok.inj hs
    simp
  | v :: vs, hvs, ts, hs => by
    simp only [literalAll] at hs
    split at hs
    · cases hs
    · next s hv =>
      split at hs
      · cases hs
      · next us hus =>
        obtain rfl := Except.ok.inj hs
        exact List.forall_mem_cons.mpr ⟨h.literal v hvs.1 hv, h.literals vs hvs.2 hus⟩

end

end Spaceable

mutual

theorem literal_onOneLine (r : Rules) : (v : Value) → r.onOneLine.literal v = r.literal v
  | .null | .bool _ | .int _ | .uint _ | .float _ | .text _ => rfl
  | .date _ | .time _ | .dateTime _ | .bytes _ => rfl
  | .list items => by
    simp only [literal, literalAll_onOneLine r items]
    rfl

theorem literalAll_onOneLine (r : Rules) : (vs : List Value) → r.onOneLine.literalAll vs = r.literalAll vs
  | [] => rfl
  | v :: vs => by simp only [literalAll, literal_onOneLine r v, literalAll_onOneLine r vs]

end

theorem needsParentheses_onOneLine (r : Rules) (parent : Operator) (rank : Option Nat) (position : Nat)
    (enclosed : Bool) (arg : Expr) :
    Render.Operand.needsParentheses r.onOneLine parent rank position enclosed arg =
      Render.Operand.needsParentheses r parent rank position enclosed arg := by
  have hrank (child : Operator) : (r.onOneLine.operators child).bind (·.rank) =
      (r.operators child).bind (·.rank) := by
    cases hop : r.operators child <;> simp [onOneLine, hop]
  simp only [Render.Operand.needsParentheses, hrank]

end Rules

end QueryText
