import QueryText.Proofs.Operands
import QueryText.Proofs.Places.Address
import QueryText.Proofs.Places.Windowing

namespace QueryText.Render

open Operand

/-- The first two results stand in the other two, with results around them that belong together. -/
def Coupling.Around (K : Coupling) (x₀ y₀ x y : Except QueryError (List Chunk)) : Prop :=
  ∃ p p' q q', K.results p p' ∧ K.results q q' ∧ x = joined p (joined x₀ q) ∧
    y = joined p' (joined y₀ q')

namespace Coupling.Around

variable {K : Coupling} {x₀ y₀ x₁ y₁ x y z t : Except QueryError (List Chunk)}

theorem refl (x y : Except QueryError (List Chunk)) : K.Around x y x y :=
  ⟨.ok [], .ok [], .ok [], .ok [], K.nothing, K.nothing, by simp, by simp⟩

theorem of_ok {xs ys : List Chunk} (h : K.Around x₀ y₀ (.ok xs) (.ok ys)) :
    ∃ ps is qs ps' is' qs', x₀ = .ok is ∧ y₀ = .ok is' ∧ K.results (.ok ps) (.ok ps') ∧
      K.results (.ok qs) (.ok qs') ∧ xs = ps ++ (is ++ qs) ∧ ys = ps' ++ (is' ++ qs') := by
  obtain ⟨p, p', q, q', hp, hq, hx, hy⟩ := h
  obtain ⟨ps, _, rfl, hx', rfl⟩ := joined_ok hx.symm
  obtain ⟨is, qs, rfl, rfl, rfl⟩ := joined_ok hx'
  obtain ⟨ps', _, rfl, hy', rfl⟩ := joined_ok hy.symm
  obtain ⟨is', qs', rfl, rfl, rfl⟩ := joined_ok hy'
  exact ⟨ps, is, qs, ps', is', qs', rfl, rfl, hp, hq, rfl, rfl⟩

theorem left (h : K.Around x₀ y₀ x y) (ht : K.results z t) : K.Around x₀ y₀ (joined x z) (joined y t) := by
  obtain ⟨p, p', q, q', hp, hq, rfl, rfl⟩ := h
  exact ⟨p, p', joined q z, joined q' t, hp, K.join hq ht, by simp only [joined_assoc],
    by simp only [joined_assoc]⟩

theorem right (ht : K.results z t) (h : K.Around x₀ y₀ x y) : K.Around x₀ y₀ (joined z x) (joined t y) := by
  obtain ⟨p, p', q, q', hp, hq, rfl, rfl⟩ := h
  exact ⟨joined z p, joined t p', q, q', K.join ht hp, hq, by simp only [joined_assoc],
    by simp only [joined_assoc]⟩

theorem trans (h : K.Around x₀ y₀ x₁ y₁) (h' : K.Around x₁ y₁ x y) : K.Around x₀ y₀ x y := by
  obtain ⟨p, p', q, q', hp, hq, rfl, rfl⟩ := h'
  exact right hp (h.left hq)

theorem parenthesized {v w : Writer} {c d : Context} (h : K.Around x₀ y₀ (v c) (w d)) :
    K.Around x₀ y₀ (Writer.parenthesized v c) (Writer.parenthesized w d) := by
  simp only [Writer.parenthesized, append_apply]
  exact (right (K.text "(") h).left (K.text ")")

theorem all {vs ws : List Writer} {c d : Context} (hc : K.contexts c d)
    (hs : List.Forall₂ K.Coupled vs ws) {i : Nat} {v w : Writer} (hv : vs[i]? = some v)
    (hw : ws[i]? = some w) (h : K.Around x₀ y₀ (v c) (w d)) :
    K.Around x₀ y₀ (Writer.all vs c) (Writer.all ws d) := by
  induction hs generalizing i with
  | nil => simp at hv
  | cons hvw hs ih =>
    simp only [Writer.all, append_apply]
    cases i with
    | zero =>
      obtain rfl := Option.some.inj hv
      obtain rfl := Option.some.inj hw
      exact h.left (Coupling.Coupled.all hs c d hc)
    | succ i => exact right (hvw c d hc) (ih hv hw)

end Coupling.Around

def Windowing.still : Windowing where
  rules _ := True
  windows := Eq
  results := Eq
  fails h _ := h ▸ Iff.rfl
  refl _ := rfl
  join h h' := h ▸ h' ▸ rfl
  window _ _ _ hw := hw ▸ rfl

def Couplings.settling : Coupling where
  contexts := Eq
  results x y := ∀ xs, x = .ok xs → y = .ok xs
  rules_alike {c d} h := ⟨d.rules.flattensLists, by rw [h, Rules.withFlattening_self]⟩
  nested_cases h := .inl (h ▸ rfl)
  comparing h p := h ▸ rfl
  candidate h p := h ▸ rfl
  nothing _ h := h
  text _ _ h := h
  fail _ _ _ h := h
  join := joined_keeps
  path h _ _ hx := h ▸ hx
  wildcards := True
  wildcardText h _ _ _ hx := h ▸ hx

section Settling

open Couplings

theorem expr_operationTo (n : Nat) (op : Operator) (as : List Operand) :
    (operationTo n op as).expr = .operation op (as.map (·.expr)) := by
  cases n <;> rfl

theorem args_operationTo (n : Nat) (op : Operator) (as : List Operand) : (operationTo n op as).args = as := by
  cases n <;> rfl

theorem operationTo_settling {m n : Nat} (hmn : m ≤ n) (op : Operator) {as bs : List Operand}
    (h : List.Forall₂ settling.CoupledOperand as bs) :
    settling.CoupledOperand (operationTo m op as) (operationTo n op bs) := by
  induction m generalizing n op as bs with
  | zero =>
    refine .intro ?_ (fun _ _ _ _ hx => by cases hx) (fun _ _ _ => ?_) (fun _ _ _ _ => ?_) ?_
    · simp only [expr_operationTo, Expr.head]
    · simp only [expr_operationTo, isEmptyList]
    · simp [Coupling.KnownAlike, expr_operationTo, knownText?]
    · simpa only [args_operationTo] using h
  | succ m ih =>
    obtain ⟨n, rfl⟩ : ∃ k, n = k + 1 := ⟨n - 1, by omega⟩
    refine .intro rfl ?_ (fun _ _ _ => rfl) (fun _ _ _ _ => ?_) h
    · refine Coupling.writeOperation_coupled (fun _ a a' b b' ha ha' => ?_) op (.inl trivial) h
      exact ih (Nat.le_of_succ_le_succ hmn) .concat (.cons ha (.cons ha' .nil))
    · simp [Coupling.KnownAlike, operationTo, knownText?]

end Settling

namespace Windowing

variable {W : Windowing} {e e' : Expr} {args args' : List Expr} {c : Context}

theorem contexts (h : W.rules c.rules) : W.coupling.contexts c c :=
  ⟨rfl, h⟩

theorem knownText?_eq (h : e.SameButWindows W.windows e') : knownText? c e = knownText? c e' := by
  cases h <;> rfl

theorem withWildcards_sameButWindows (h : e.SameButWindows W.windows e') (a : Affix) :
    (e.withWildcards a).SameButWindows W.windows (e'.withWildcards a) := by
  have hp : (Expr.constant (.text "%")).SameButWindows W.windows (.constant (.text "%")) := .constant _
  cases a with
  | bare => exact h
  | leading => exact .operation _ (.cons hp (.cons h .nil))
  | trailing => exact .operation _ (.cons h (.cons hp .nil))
  | both => exact .operation _ (.cons (.operation _ (.cons hp (.cons h .nil))) (.cons hp .nil))

theorem forall₂_getElem? {α β : Type} {R : α → β → Prop} {xs : List α} {ys : List β}
    (h : List.Forall₂ R xs ys) {i : Nat} {x : α} (hi : xs[i]? = some x) :
    ∃ y, ys[i]? = some y ∧ R x y := by
  induction h generalizing i with
  | nil => simp at hi
  | cons h _ ih =>
    cases i with
    | zero =>
      obtain rfl := Option.some.inj hi
      exact ⟨_, rfl, h⟩
    | succ i => exact ih hi

theorem inSlot?_some {s : Pattern.Slot} {a : Expr} (h : Expr.inSlot? c args s = some a) :
    ∃ e, args[s.index]? = some e ∧ a = e.withWildcards s.affix ∧
      (s.affix = .bare ∨ knownText? c e = none) := by
  obtain ⟨e, he, ha⟩ := Option.bind_eq_some_iff.mp h
  refine ⟨e, he, ?_⟩
  by_cases hb : s.affix = .bare
  · simp only [hb, ↓reduceIte, Option.some.injEq] at ha
    exact ⟨by rw [hb, ← ha]; rfl, .inl hb⟩
  · rw [if_neg hb] at ha
    split at ha
    · cases ha
    · next hk => exact ⟨(Option.some.inj ha).symm, .inr (by simpa using hk)⟩

theorem inSlot?_of {s : Pattern.Slot} (he : args[s.index]? = some e)
    (h : s.affix = .bare ∨ knownText? c e = none) :
    Expr.inSlot? c args s = some (e.withWildcards s.affix) := by
  rw [Expr.inSlot?, he, Option.bind_some]
  obtain h | h := h
  · rw [if_pos h, h]
    rfl
  · split
    · next hb =>
      rw [hb]
      rfl
    · simp [h]

theorem around_of_settled {x₀ y₀ x₁ y₁ x y : Except QueryError (List Chunk)} (h₁ : W.results x₁ y₁)
    (hx : ∀ xs, x₁ = .ok xs → x₀ = .ok xs) (hy : ∀ ys, y₁ = .ok ys → y₀ = .ok ys)
    (h : W.coupling.Around x₁ y₁ x y) : W.coupling.Around x₀ y₀ x y := by
  cases hx₁ : x₁ with
  | ok xs =>
    cases hy₁ : y₁ with
    | ok ys => rwa [hx _ hx₁, hy _ hy₁, ← hx₁, ← hy₁]
    | error e => cases hx₁.symm.trans ((W.fails h₁ e).mpr hy₁)
  | error e =>
    obtain ⟨p, p', q, q', hp, -, rfl, rfl⟩ := h
    have hy₁ : y₁ = .error e := (W.fails h₁ e).mp hx₁
    refine ⟨joined p (.error e), joined p' (.error e), .ok [], .ok [], W.join hp (W.refl _), W.refl _, ?_, ?_⟩
    · simp only [hx₁, joined_assoc, joined_error]
    · simp only [hy₁, joined_assoc, joined_error]

section Argument

variable {m : Nat} {a : Affix}

theorem operand_withWildcards (a : Affix) (e : Expr) :
    (e.withWildcards a).operand = Operand.withWildcards Operand.concat a e.operand := by
  cases a <;> rfl

theorem expr_withWildcards (m : Nat) (a : Affix) (e : Expr) :
    (Operand.withWildcards (fun a b => operationTo m .concat [a, b]) a e.operand).expr =
      e.withWildcards a := by
  cases a <;> simp [Operand.withWildcards, Expr.withWildcards, expr_operationTo, Expr.expr_operand, percent,
    Operand.constant]

theorem withWildcards_settled (hm : m ≤ wildcardDepth) (a : Affix) (e : Expr) (xs : List Chunk)
    (h : (Operand.withWildcards (fun a b => operationTo m .concat [a, b]) a e.operand).write c = .ok xs) :
    (e.withWildcards a).write c = .ok xs := by
  have hself : Couplings.settling.CoupledOperand e.operand e.operand :=
    Coupling.CoupledOperand.self (fun _ _ h => h) (fun _ _ h => h) _
  have hconcat : Couplings.settling.wildcards → ∀ a a' b b', Couplings.settling.CoupledOperand a b →
      Couplings.settling.CoupledOperand a' b' →
      Couplings.settling.CoupledOperand (operationTo m .concat [a, a']) (Operand.concat b b') :=
    fun _ _ _ _ _ ha hb => operationTo_settling hm .concat (.cons ha (.cons hb .nil))
  have hcoupled := Coupling.withWildcards_coupled hconcat trivial a hself
  rw [Expr.write, operand_withWildcards]
  exact hcoupled.write c c rfl xs h

theorem withWildcards_alike (hr : W.rules c.rules) (m : Nat) (a : Affix) (h : W.Same e e') :
    W.results ((Operand.withWildcards (fun a b => operationTo m .concat [a, b]) a e.operand).write c)
      ((Operand.withWildcards (fun a b => operationTo m .concat [a, b]) a e'.operand).write c) := by
  have hconcat : W.coupling.wildcards → ∀ a a' b b', W.coupling.CoupledOperand a b →
      W.coupling.CoupledOperand a' b' →
      W.coupling.CoupledOperand (operationTo m .concat [a, a']) (operationTo m .concat [b, b']) :=
    fun _ _ _ _ _ ha hb =>
      Coupling.operationTo_coupled m .concat (.inl trivial) (.cons ha (.cons hb .nil))
  have hcoupled := Coupling.withWildcards_coupled hconcat trivial a (operand_coupled e h)
  exact hcoupled.write c c (contexts hr)

theorem writeAffixed_eq (m : Nat) (hk : a = .bare ∨ knownText? c e = none) (other : Operand → Writer) :
    writeAffixed (fun a b => operationTo m .concat [a, b]) a e.operand other c =
      other (Operand.withWildcards (fun a b => operationTo m .concat [a, b]) a e.operand) c := by
  obtain rfl | hk := hk
  · rfl
  · by_cases hb : a = .bare
    · subst hb
      rfl
    · simp only [writeAffixed, hb, ↓reduceIte, Expr.expr_operand, hk]

theorem withWildcards_around (hr : W.rules c.rules) (hm : m ≤ wildcardDepth) (a : Affix) (h : W.Same e e')
    {x y : Except QueryError (List Chunk)}
    (haround : W.coupling.Around
      ((Operand.withWildcards (fun a b => operationTo m .concat [a, b]) a e.operand).write c)
      ((Operand.withWildcards (fun a b => operationTo m .concat [a, b]) a e'.operand).write c) x y) :
    W.coupling.Around ((e.withWildcards a).write c) ((e'.withWildcards a).write c) x y :=
  around_of_settled (withWildcards_alike hr m a h) (withWildcards_settled hm a e)
    (withWildcards_settled hm a e') haround

theorem writeElement_around (hr : W.rules c.rules) (hm : m ≤ wildcardDepth)
    (h : List.Forall₂ (Expr.SameButWindows W.windows) args args')
    (op : Operator) (rank : Option Nat) {s : Pattern.Slot} (hi : ¬ (op = .instanceOf ∧ s.index = 1))
    (enclosed : Bool) (he : Expr.inSlot? c args s = some e) :
    ∃ e', Expr.inSlot? c args' s = some e' ∧ e.SameButWindows W.windows e' ∧
      W.coupling.Around (e.write c) (e'.write c)
        (writeElement (fun a b => operationTo m .concat [a, b]) op rank (Expr.operands args)
          (.slot s enclosed) c)
        (writeElement (fun a b => operationTo m .concat [a, b]) op rank (Expr.operands args')
          (.slot s enclosed) c) := by
  obtain ⟨e, hx, rfl, hk⟩ := inSlot?_some he
  obtain ⟨e', hx', hsame⟩ := forall₂_getElem? h hx
  have hk' := hk
  rw [knownText?_eq hsame] at hk'
  have hwild := withWildcards_sameButWindows hsame s.affix
  refine ⟨_, inSlot?_of hx' hk', hwild, withWildcards_around hr hm s.affix hsame ?_⟩
  have hskip : (decide (op = .instanceOf) && decide (s.index = 1)) = false := by simpa using hi
  simp only [writeElement, Expr.operands_eq_map, List.getElem?_map, hx, hx', Option.map_some, hskip,
    Bool.false_eq_true, ↓reduceIte, writeAffixed_eq m hk, writeAffixed_eq m hk', writeGrouped,
    expr_withWildcards, needsParentheses_eq_of_head_eq hwild.head_eq]
  split
  · exact Coupling.Around.parenthesized (.refl _ _)
  · exact .refl _ _

end Argument

theorem slot_of_getElem? {es : List Pattern.Element} {i : Nat} {s : Pattern.Slot}
    (h : (es[i]?).bind (·.slot?) = some s) : ∃ enclosed, es[i]? = some (.slot s enclosed) := by
  obtain ⟨el, hel, hs⟩ := Option.bind_eq_some_iff.mp h
  cases el with
  | text t => cases hs
  | slot s' enclosed =>
    obtain rfl : s' = s := Option.some.inj hs
    exact ⟨enclosed, hel⟩

theorem part?_operation {op : Operator} {i : Nat} {d : Context} :
    (Expr.operation op args).part? c i = some (e, d) ↔
      emptyMembership? c op (Expr.operands args) = none ∧ d = comparing (Expr.operands args) c ∧
        ∃ rule s, c.rules.operators op = some rule ∧ (rule.pattern.elements[i]?).bind (·.slot?) = some s ∧
          ¬ (op = .instanceOf ∧ s.index = 1) ∧ Expr.inSlot? d args s = some e := by
  simp only [Expr.part?, Option.ite_none_left_eq_some, Option.bind_eq_some_iff, Option.map_eq_some_iff,
    Prod.mk.injEq, Option.not_isSome_iff_eq_none]
  constructor
  · rintro ⟨hempty, rule, hrule, s, hs, hi, e, he, rfl, rfl⟩
    exact ⟨hempty, rfl, rule, s, hrule, hs, hi, he⟩
  · rintro ⟨hempty, rfl, rule, s, hrule, hs, hi, he⟩
    exact ⟨hempty, rule, hrule, s, hs, hi, e, he, rfl, rfl⟩

theorem write_operation {op : Operator} {cs : List Chunk} (h : (Expr.operation op args).write c = .ok cs)
    (hempty : emptyMembership? c op (Expr.operands args) = none) :
    ∃ rule, c.rules.operators op = some rule ∧
      Writer.all (rule.pattern.elements.map
        (writeElement (fun a b => operationTo 5 .concat [a, b]) op rule.rank (Expr.operands args)))
        (comparing (Expr.operands args) c) = .ok cs := by
  change writeOperation _ op (Expr.operands args) c = .ok cs at h
  simp only [writeOperation, hempty, Rules.require] at h
  cases hrule : c.rules.operators op with
  | none => simp [hrule, Rules.unsupported] at h
  | some rule =>
    simp only [hrule] at h
    exact ⟨rule, rfl, h⟩

theorem operation_around (hr : W.rules c.rules)
    (h : List.Forall₂ (Expr.SameButWindows W.windows) args args') (op : Operator) {i : Nat} {d : Context}
    (hp : (Expr.operation op args).part? c i = some (e, d)) :
    ∃ e', (Expr.operation op args').part? c i = some (e', d) ∧ e.SameButWindows W.windows e' ∧
      d.rules = c.rules ∧
      W.coupling.Around (e.write d) (e'.write d) ((Expr.operation op args).write c)
        ((Expr.operation op args').write c) := by
  obtain ⟨hempty, rfl, rule, s, hrule, hs, hi, he⟩ := part?_operation.mp hp
  have hargs := operands_coupled args h
  have hempty' : emptyMembership? c op (Expr.operands args') = none := by
    rw [← Coupling.emptyMembership?_eq hargs op (contexts hr), hempty]
  obtain ⟨hcontext, hrules⟩ := Coupling.comparing_contexts hargs (contexts hr)
  have hkept : (comparing (Expr.operands args) c).rules = c.rules := by
    obtain ⟨p, hp⟩ := comparing_eq (Expr.operands args) c
    rw [hp]
  obtain ⟨enclosed, helement⟩ := slot_of_getElem? hs
  obtain ⟨e', he', hsame, haround⟩ := writeElement_around (m := 5) hrules (by decide) h op rule.rank hi enclosed he
  refine ⟨e', part?_operation.mpr ⟨hempty', hcontext, rule, s, hrule, hs, hi, he'⟩, hsame, hkept, ?_⟩
  have helements : List.Forall₂ W.coupling.Coupled
      (rule.pattern.elements.map (writeElement (fun a b => operationTo 5 .concat [a, b]) op rule.rank
        (Expr.operands args)))
      (rule.pattern.elements.map (writeElement (fun a b => operationTo 5 .concat [a, b]) op rule.rank
        (Expr.operands args'))) :=
    Coupling.forall₂_map_self fun el _ => Coupling.writeElement_coupled
      (fun _ _ _ _ _ ha hb => Coupling.operationTo_coupled _ _ (.inl trivial) (.cons ha (.cons hb .nil)))
      op rule.rank hargs el (.inl trivial)
  change W.coupling.Around _ _ (writeOperation (fun a b => operationTo 5 .concat [a, b]) op _ c)
    (writeOperation (fun a b => operationTo 5 .concat [a, b]) op _ c)
  simp only [writeOperation, hempty, hempty', Rules.require, hrule, ← hcontext]
  refine Coupling.Around.all (i := i) (contexts hrules) helements ?_ ?_ haround
  · rw [List.getElem?_map, helement]
    rfl
  · rw [List.getElem?_map, helement]
    rfl

theorem part?_custom {f : Fragment} {i : Nat} {d : Context} :
    (Expr.custom f args).part? c i = some (e, d) ↔
      f.supports c.rules.dialect = true ∧ d = c ∧
        ∃ s, (f.pattern.elements[i]?).bind (·.slot?) = some s ∧ Expr.inSlot? c args s = some e := by
  simp only [Expr.part?, Option.ite_none_right_eq_some, Option.bind_eq_some_iff, Option.map_eq_some_iff,
    Prod.mk.injEq]
  constructor
  · rintro ⟨hf, s, hs, e, he, rfl, rfl⟩
    exact ⟨hf, rfl, s, hs, he⟩
  · rintro ⟨hf, rfl, s, hs, he⟩
    exact ⟨hf, s, hs, e, he, rfl, rfl⟩

theorem custom_around (hr : W.rules c.rules)
    (h : List.Forall₂ (Expr.SameButWindows W.windows) args args') (f : Fragment) {i : Nat} {d : Context}
    (hp : (Expr.custom f args).part? c i = some (e, d)) :
    ∃ e', (Expr.custom f args').part? c i = some (e', d) ∧ e.SameButWindows W.windows e' ∧
      d.rules = c.rules ∧
      W.coupling.Around (e.write d) (e'.write d) ((Expr.custom f args).write c)
        ((Expr.custom f args').write c) := by
  obtain ⟨hf, rfl, s, hs, he⟩ := part?_custom.mp hp
  have hargs := operands_coupled args h
  obtain ⟨enclosed, helement⟩ := slot_of_getElem? hs
  obtain ⟨e, hx, rfl, hk⟩ := inSlot?_some he
  obtain ⟨e', hx', hsame⟩ := forall₂_getElem? h hx
  have hk' := hk
  rw [knownText?_eq hsame] at hk'
  refine ⟨_, part?_custom.mpr ⟨hf, rfl, s, hs, inSlot?_of hx' hk'⟩,
    withWildcards_sameButWindows hsame s.affix, rfl, ?_⟩
  have helements : List.Forall₂ W.coupling.Coupled
      (f.pattern.elements.map (writeCustomElement f (Expr.operands args)))
      (f.pattern.elements.map (writeCustomElement f (Expr.operands args'))) :=
    Coupling.forall₂_map_self fun el _ => Coupling.writeCustomElement_coupled f hargs el (.inl trivial)
  have hwrite (args : List Expr) : (Expr.custom f args).write d =
      Writer.all (f.pattern.elements.map (writeCustomElement f (Expr.operands args))) d := by
    change (Operand.custom f (Expr.operands args)).write d = _
    simp only [Operand.custom, hf, ↓reduceIte]
  rw [hwrite, hwrite]
  refine Coupling.Around.all (i := i) (contexts hr) helements
    (v := writeCustomElement f (Expr.operands args) (.slot s enclosed))
    (w := writeCustomElement f (Expr.operands args') (.slot s enclosed)) ?_ ?_ ?_
  · rw [List.getElem?_map, helement]
    rfl
  · rw [List.getElem?_map, helement]
    rfl
  · refine withWildcards_around hr (m := wildcardDepth) le_rfl s.affix hsame ?_
    simp only [writeCustomElement, Expr.operands_eq_map, List.getElem?_map, hx, hx', Option.map_some]
    change W.coupling.Around _ _
      (writeAffixed (fun a b => operationTo wildcardDepth .concat [a, b]) s.affix e.operand _ d)
      (writeAffixed (fun a b => operationTo wildcardDepth .concat [a, b]) s.affix e'.operand _ d)
    rw [writeAffixed_eq _ hk, writeAffixed_eq _ hk']
    split
    · exact .refl _ _
    · exact Coupling.Around.parenthesized (.refl _ _)

end Windowing

end QueryText.Render
