import QueryText.Proofs.Places.Spots

namespace QueryText

open Render

theorem Render.Writer.exists_ok_of_all {ws : List Writer} {c : Context} {cs : List Chunk}
    (h : Writer.all ws c = .ok cs) : ∀ w ∈ ws, ∃ xs, w c = .ok xs := by
  induction ws generalizing cs with
  | nil => simp
  | cons w ws ih =>
    rw [Writer.all, append_apply] at h
    obtain ⟨xs, ys, hx, hy, -⟩ := joined_ok h
    exact List.forall_mem_cons.mpr ⟨⟨xs, hx⟩, ih hy⟩

namespace Pattern

def isMethodCall (p : Pattern) : Bool :=
  match p.elements with
  | .slot _ _ :: .text ('.' :: _) :: _ =>
    isCall ⟨String.ofList ((p.source.toList.dropWhile (· != closeBrace)).drop 1)⟩
  | _ => false

def isCallShaped (p : Pattern) : Bool :=
  p.isCall || p.isMethodCall

def isCalledAt (p : Pattern) (i : Nat) : Bool :=
  match p.elements[i + 1]? with
  | some (.text ('.' :: _)) => true
  | _ => false

end Pattern

namespace Operator

def arithmetic : List Operator :=
  [.negate, .mul, .div, .mod, .add, .sub, .concat]

def comparisons : List Operator :=
  [.eq, .ne, .lt, .gt, .le, .ge, .isNull, .isNotNull, .containsText, .instanceOf]

def negations : List Operator :=
  [.not, .notIn, .isNotEmpty]

/-- The operations that an object query takes apart when they are the argument with that number. -/
def takenApart : Operator → Nat → List Operator
  | .like, 0 | .lower, 0 | .upper, 0 | .trim, 0 | .length, 0 | .substringFrom, 0 | .substringBetween, 0
  | .startsWith, 0 | .endsWith, 0 | .indexOf, 0 | .isEmpty, 0 | .size, 0 | .isIn, 1 => [.asAlias]
  | .containsText, 0 => .asAlias :: .containsText :: arithmetic
  | .isNotEmpty, 0 => .asAlias :: .isNotEmpty :: arithmetic ++ comparisons
  | .notIn, 1 => .asAlias :: arithmetic ++ comparisons
  | .between, 0 => .between :: comparisons ++ negations
  | .between, 1 | .between, 2 => comparisons ++ negations
  | _, _ => []

end Operator

namespace Expr

open Operand

def isCallShaped (r : Rules) : Expr → Bool
  | operation op _ => (r.operators op).any (·.pattern.isCallShaped)
  | custom f _ => f.pattern.isCallShaped
  | _ => false

def rank? (c : Context) : Expr → Option Nat
  | operation op args =>
    if (emptyMembership? c op (operands args)).isSome then none else (c.rules.operators op).bind (·.rank)
  | _ => none

/-- That element of the pattern of an operation is written as the argument in parentheses. -/
def Parenthesized (c : Context) (op : Operator) (rule : OperatorRule) (args : List Expr)
    (el : Pattern.Element) (arg : Expr) : Prop :=
  ∃ cs, arg.write c = .ok cs ∧
    writeElement Operand.concat op rule.rank (operands args) el c = .ok (.text "(" :: cs ++ [.text ")"])

/-- An argument without parentheses is atomic or one call where a method is called on it, and binds
tighter than a comparison where it is compared. -/
def KeptAt (c : Context) (op : Operator) (rule : OperatorRule) (args : List Expr) (i : Nat)
    (s : Pattern.Slot) (enclosed : Bool) (arg : Expr) : Prop :=
  Parenthesized c op rule args (.slot s enclosed) arg ∨
    (rule.pattern.isCalledAt i → arg.isAtomic ∨ arg.isCallShaped c.rules) ∧
    (op = .between → ∀ k, arg.rank? c = some k → k < Rules.comparison)

/-- So are the arguments of an operation in all places of its pattern. -/
def KeepsOperands (c : Context) : Expr → Prop
  | operation op args =>
    emptyMembership? c op (operands args) = none → ∀ rule i s enclosed arg,
      c.rules.operators op = some rule → rule.pattern.elements[i]? = some (.slot s enclosed) →
      args[s.index]? = some arg → KeptAt (comparing (operands args) c) op rule args i s enclosed arg
  | _ => True

/-- An operation over one that it takes apart. -/
def TakesApart (c : Context) : Expr → Prop
  | operation op args =>
    emptyMembership? c op (operands args) = none ∧ ∃ n child inner,
      args[n]? = some (operation child inner) ∧ child ∈ op.takenApart n ∧
      (op = .between → emptyMembership? (comparing (operands args) c) child (operands inner) = none)
  | _ => False

end Expr

namespace Rules

open Operand

/-- The operator stands without parentheses in that place of another one, though a method is called on
it, or it is compared and binds no tighter than that. -/
def exposes (op : Operator) (rule : OperatorRule) (i : Nat) (child : Operator) (inner : OperatorRule) : Bool :=
  match rule.pattern.elements[i]? with
  | some (.slot s enclosed) =>
    !needsParentheses jdoql op rule.rank s.index enclosed (.operation child []) &&
      (rule.pattern.isCalledAt i && !inner.pattern.isCallShaped ||
        op = .between && inner.rank.any (comparison ≤ ·))
  | _ => false

theorem exposes_table : ∀ op ∈ Operator.all, ∀ rule ∈ jdoqlOperators op,
    ∀ i < rule.pattern.elements.length, ∀ s ∈ (rule.pattern.elements[i]?).bind (·.slot?),
      ∀ child ∈ Operator.all, ∀ inner ∈ jdoqlOperators child,
        exposes op rule i child inner = true → child ∈ op.takenApart s.index := by
  decide +kernel

theorem takenApart_table : ∀ op ∈ Operator.all, ∀ n < 3, ∀ child ∈ op.takenApart n,
    ∃ rule ∈ jdoqlOperators op, ∃ inner ∈ jdoqlOperators child, ∃ i < rule.pattern.elements.length,
      ∃ s ∈ (rule.pattern.elements[i]?).bind (·.slot?), s.index = n ∧ exposes op rule i child inner = true := by
  decide +kernel

def ofCall (op : Operator) (rule : OperatorRule) (i : Nat) : Bool :=
  match rule.pattern.elements[i]? with
  | some (.slot s enclosed) =>
    s.affix = .bare && (!rule.pattern.isCalledAt i || !enclosed && op != .instanceOf && op != .between)
  | _ => true

theorem ofCall_table : ∀ op ∈ Operator.all, ∀ rule ∈ jdoqlOperators op,
    ∀ i < rule.pattern.elements.length, ofCall op rule i = true := by
  decide +kernel

section Exposed

variable {op child : Operator} {rule inner : OperatorRule} {i n : Nat} {s : Pattern.Slot} {enclosed : Bool}

theorem slot?_eq_some (h : rule.pattern.elements[i]? = some (.slot s enclosed)) :
    i < rule.pattern.elements.length ∧ (rule.pattern.elements[i]?).bind (·.slot?) = some s :=
  ⟨(List.getElem?_eq_some_iff.mp h).1, by rw [h]; rfl⟩

theorem exposes_iff (h : rule.pattern.elements[i]? = some (.slot s enclosed)) :
    exposes op rule i child inner = true ↔
      needsParentheses jdoql op rule.rank s.index enclosed (.operation child []) = false ∧
        (rule.pattern.isCalledAt i = true ∧ inner.pattern.isCallShaped = false ∨
          op = .between ∧ ∃ k, inner.rank = some k ∧ comparison ≤ k) := by
  cases hk : inner.rank <;> simp [exposes, h, hk]

theorem mem_takenApart (hop : jdoqlOperators op = some rule) (hchild : jdoqlOperators child = some inner)
    (h : rule.pattern.elements[i]? = some (.slot s enclosed)) (hx : exposes op rule i child inner = true) :
    child ∈ op.takenApart s.index :=
  exposes_table op op.mem_all rule hop i (slot?_eq_some h).1 s (slot?_eq_some h).2 child child.mem_all
    inner hchild hx

theorem lt_three_of_mem (h : child ∈ op.takenApart n) : n < 3 := by
  unfold Operator.takenApart at h
  split at h <;> first | decide | simp at h

theorem exists_exposed (h : child ∈ op.takenApart n) :
    ∃ rule inner i s enclosed, jdoqlOperators op = some rule ∧ jdoqlOperators child = some inner ∧
      rule.pattern.elements[i]? = some (.slot s enclosed) ∧ s.index = n ∧
      exposes op rule i child inner = true := by
  obtain ⟨rule, hop, inner, hchild, i, -, s, hs, hn, hx⟩ :=
    takenApart_table op op.mem_all n (lt_three_of_mem h) child h
  obtain ⟨el, hel, hslot⟩ := Option.bind_eq_some_iff.mp hs
  cases el with
  | text t => cases hslot
  | slot t enclosed =>
    obtain rfl : t = s := Option.some.inj hslot
    exact ⟨rule, inner, i, t, enclosed, hop, hchild, hel, hn, hx⟩

end Exposed

theorem ofCall_slot {op : Operator} {rule : OperatorRule} {i : Nat} {s : Pattern.Slot} {enclosed : Bool}
    (hop : jdoqlOperators op = some rule) (h : rule.pattern.elements[i]? = some (.slot s enclosed)) :
    s.affix = .bare ∧ (rule.pattern.isCalledAt i = true →
      enclosed = false ∧ op ≠ .instanceOf ∧ op ≠ .between) := by
  have ht := ofCall_table op op.mem_all rule hop i (slot?_eq_some h).1
  simp only [ofCall, h, Bool.and_eq_true, decide_eq_true_eq, Bool.or_eq_true] at ht
  refine ⟨ht.1, fun hc => ?_⟩
  simpa [hc, and_assoc] using ht.2

theorem needsParentheses_jdoql {r : Rules} (hr : r.operators = jdoqlOperators) (op : Operator)
    (rank : Option Nat) (n : Nat) (enclosed : Bool) (child : Operator) (inner : List Expr) :
    needsParentheses r op rank n enclosed (.operation child inner) =
      needsParentheses jdoql op rank n enclosed (.operation child []) := by
  simp only [needsParentheses, Expr.isAtomic, hr, jdoql]
  rfl

end Rules

namespace Expr

open Operand

variable {c : Context} {op : Operator} {args : List Expr} {cs : List Chunk}

theorem write_slot (concat : Operand → Operand → Operand) (rank : Option Nat) {s : Pattern.Slot}
    {enclosed : Bool} {arg : Expr} (hs : s.affix = .bare) (ha : args[s.index]? = some arg)
    (hi : op ≠ .instanceOf) :
    writeElement concat op rank (operands args) (.slot s enclosed) c =
      if needsParentheses c.rules op rank s.index enclosed arg then Writer.parenthesized arg.write c
      else arg.write c := by
  simp only [writeElement, operands_eq_map, List.getElem?_map, ha, Option.map_some, hi, decide_false,
    Bool.false_and, Bool.false_eq_true, ↓reduceIte, writeAffixed, hs, writeGrouped, expr_operand]
  rfl

theorem elements_of_write (h : (operation op args).write c = .ok cs)
    (hempty : emptyMembership? c op (operands args) = none) :
    ∃ rule, c.rules.operators op = some rule ∧ ∀ el ∈ rule.pattern.elements,
      ∃ xs, writeElement (fun a b => operationTo 5 .concat [a, b]) op rule.rank (operands args) el
        (comparing (operands args) c) = .ok xs := by
  obtain ⟨rule, hrule, hall⟩ := Windowing.write_operation h hempty
  exact ⟨rule, hrule, fun el hel => Writer.exists_ok_of_all hall _ (List.mem_map_of_mem hel)⟩

theorem parenthesized_ok {w : Writer} {xs : List Chunk} (h : w c = .ok xs) :
    Writer.parenthesized w c = .ok (.text "(" :: xs ++ [.text ")"]) := by
  simp only [Writer.parenthesized, append_apply, h]
  rfl

theorem parenthesized_iff {concat : Operand → Operand → Operand} {rule : OperatorRule} {s : Pattern.Slot}
    {enclosed : Bool} {arg : Expr} (hs : s.affix = .bare) (ha : args[s.index]? = some arg)
    (hi : op ≠ .instanceOf)
    (hw : ∃ xs, writeElement concat op rule.rank (operands args) (.slot s enclosed) c = .ok xs) :
    (∃ xs, arg.write c = .ok xs) ∧ (Parenthesized c op rule args (.slot s enclosed) arg ↔
      needsParentheses c.rules op rule.rank s.index enclosed arg = true) := by
  rw [write_slot _ _ hs ha hi] at hw
  rw [Parenthesized, write_slot _ _ hs ha hi]
  split at hw
  · next hp =>
    simp only [hp, ↓reduceIte, iff_true]
    obtain ⟨xs, hw⟩ := hw
    simp only [Writer.parenthesized, append_apply] at hw
    obtain ⟨_, _, hx, -, -⟩ := joined_ok hw
    obtain ⟨_, ys, -, hy, -⟩ := joined_ok hx
    exact ⟨⟨ys, hy⟩, ys, hy, parenthesized_ok hy⟩
  · next hp =>
    simp only [hp, Bool.false_eq_true, ↓reduceIte, iff_false]
    refine ⟨hw, ?_⟩
    rintro ⟨xs, hx, hxs⟩
    rw [hx] at hxs
    have hlength := congrArg List.length (Except.ok.inj hxs)
    simp at hlength
    omega

theorem operator_of_write (hr : c.rules.operators = Rules.jdoqlOperators)
    (h : (operation op args).write c = .ok cs) : ∃ rule, Rules.jdoqlOperators op = some rule := by
  cases hs : emptyMembership? c op (operands args) with
  | none =>
    obtain ⟨rule, hrule, -⟩ := elements_of_write h hs
    exact ⟨rule, hr ▸ hrule⟩
  | some s => obtain ⟨rfl, -⟩ | ⟨rfl, -⟩ := emptyMembership?_eq_some hs <;> exact ⟨_, rfl⟩

section Place

variable {d : Context} {rule : OperatorRule} {i : Nat} {s : Pattern.Slot} {enclosed : Bool} {arg : Expr}

/-- The argument is no operation that is exposed there, unless it is a membership between two bounds that is
settled: no pattern writes that one. -/
def Unexposed (d : Context) (op : Operator) (rule : OperatorRule) (i : Nat) (arg : Expr) : Prop :=
  ∀ child inner row, arg = operation child inner → Rules.jdoqlOperators child = some row →
    Rules.exposes op rule i child row = true → op = .between ∧ emptyMembership? d child (operands inner) ≠ none

theorem exposes_of_open (hr : d.rules.operators = Rules.jdoqlOperators)
    (hs : rule.pattern.elements[i]? = some (.slot s enclosed)) {child : Operator} {inner : List Expr}
    {row : OperatorRule}
    (hopen : needsParentheses d.rules op rule.rank s.index enclosed (operation child inner) = false)
    (h : rule.pattern.isCalledAt i = true ∧ row.pattern.isCallShaped = false ∨
      op = .between ∧ ∃ k, row.rank = some k ∧ Rules.comparison ≤ k) :
    Rules.exposes op rule i child row = true := by
  rw [Rules.needsParentheses_jdoql hr] at hopen
  exact (Rules.exposes_iff hs).mpr ⟨hopen, h⟩

theorem Unexposed.called (h : Unexposed d op rule i arg) (hr : d.rules.operators = Rules.jdoqlOperators)
    (hop : Rules.jdoqlOperators op = some rule) (hs : rule.pattern.elements[i]? = some (.slot s enclosed))
    (hopen : needsParentheses d.rules op rule.rank s.index enclosed arg = false)
    (hw : ∃ xs, arg.write d = .ok xs) (hc : rule.pattern.isCalledAt i = true) :
    arg.isAtomic = true ∨ arg.isCallShaped d.rules = true := by
  obtain ⟨rfl, -, hb⟩ := (Rules.ofCall_slot hop hs).2 hc
  cases arg with
  | path _ | constant _ | param _ | subQuery _ => exact .inl rfl
  | custom f inner =>
    have hcustom : op ≠ .not ∧ f.pattern.isCall = true := by
      simpa [needsParentheses, isAtomic] using hopen
    exact .inr (by simp [isCallShaped, Pattern.isCallShaped, hcustom.2])
  | operation child inner =>
    obtain ⟨xs, hxs⟩ := hw
    obtain ⟨row, hrow⟩ := operator_of_write hr hxs
    refine .inr ?_
    by_contra hshape
    have hrowShape : row.pattern.isCallShaped = false := by simpa [isCallShaped, hr, hrow] using hshape
    have hx := exposes_of_open hr hs hopen (.inl ⟨hc, hrowShape⟩)
    exact hb (h child inner row rfl hrow hx).1

theorem Unexposed.compared (h : Unexposed d op rule i arg) (hr : d.rules.operators = Rules.jdoqlOperators)
    (hs : rule.pattern.elements[i]? = some (.slot s enclosed))
    (hopen : needsParentheses d.rules op rule.rank s.index enclosed arg = false) (hb : op = .between)
    {k : Nat} (hk : arg.rank? d = some k) : k < Rules.comparison := by
  cases arg with
  | path _ | constant _ | param _ | subQuery _ | custom _ _ => cases hk
  | operation child inner =>
    simp only [rank?, Option.ite_none_left_eq_some, Option.bind_eq_some_iff, hr] at hk
    obtain ⟨hempty, row, hrow, hk⟩ := hk
    by_contra hlt
    have hx := exposes_of_open hr hs hopen (.inr ⟨hb, k, hk, Nat.not_lt.mp hlt⟩)
    exact (h child inner row rfl hrow hx).2 (by simpa using hempty)

section Written

variable {concat : Operand → Operand → Operand} (hr : d.rules.operators = Rules.jdoqlOperators)
  (hop : Rules.jdoqlOperators op = some rule) (hs : rule.pattern.elements[i]? = some (.slot s enclosed))
  (ha : args[s.index]? = some arg)
  (hw : ∃ xs, writeElement concat op rule.rank (operands args) (.slot s enclosed) d = .ok xs)

include hr hop hs ha hw

theorem KeptAt.unexposed (hkept : KeptAt d op rule args i s enclosed arg) : Unexposed d op rule i arg := by
  rintro child inner row rfl hrow hx
  obtain ⟨hbare, hcall⟩ := Rules.ofCall_slot hop hs
  rw [Rules.exposes_iff hs, ← Rules.needsParentheses_jdoql hr _ _ _ _ _ inner] at hx
  obtain ⟨hopen, hx⟩ := hx
  have hi : op ≠ .instanceOf := by
    obtain ⟨hcalled, -⟩ | ⟨rfl, -⟩ := hx
    · exact (hcall hcalled).2.1
    · decide
  obtain hparen | ⟨hcalled, hcompared⟩ := hkept
  · rw [(parenthesized_iff hbare ha hi hw).2, hopen] at hparen
    cases hparen
  · obtain ⟨hc, hshape⟩ | ⟨rfl, k, hk, hle⟩ := hx
    · obtain hatom | hshaped := hcalled hc
      · cases hatom
      · simp [isCallShaped, hr, hrow, hshape] at hshaped
    · refine ⟨rfl, fun hempty => ?_⟩
      have hlt := hcompared rfl k (by simp [rank?, hempty, hr, hrow, hk])
      exact absurd hle (Nat.not_le.mpr hlt)

theorem Unexposed.keptAt (h : Unexposed d op rule i arg) : KeptAt d op rule args i s enclosed arg := by
  obtain ⟨hbare, hcall⟩ := Rules.ofCall_slot hop hs
  by_cases hi : op = .instanceOf
  · exact .inr ⟨fun hc => absurd hi (hcall hc).2.1, fun hb => absurd (hb.symm.trans hi) (by decide)⟩
  obtain ⟨harg, hparen⟩ := parenthesized_iff hbare ha hi hw
  cases hopen : needsParentheses d.rules op rule.rank s.index enclosed arg with
  | true => exact .inl (hparen.mpr hopen)
  | false => exact .inr ⟨h.called hr hop hs hopen harg, fun hb k => h.compared hr hs hopen hb⟩

theorem keptAt_iff : KeptAt d op rule args i s enclosed arg ↔ Unexposed d op rule i arg :=
  ⟨KeptAt.unexposed hr hop hs ha hw, Unexposed.keptAt hr hop hs ha hw⟩

end Written

end Place

theorem keepsOperands_iff {e : Expr} (hr : c.rules.operators = Rules.jdoqlOperators)
    (h : e.write c = .ok cs) : e.KeepsOperands c ↔ ¬ e.TakesApart c := by
  cases e with
  | path _ | constant _ | param _ | custom _ _ | subQuery _ => simp [KeepsOperands, TakesApart]
  | operation op args =>
    rw [KeepsOperands, TakesApart]
    by_cases hempty : emptyMembership? c op (operands args) = none
    swap
    · simp [hempty]
    obtain ⟨rule, hrule, helements⟩ := elements_of_write h hempty
    have hop : Rules.jdoqlOperators op = some rule := hr ▸ hrule
    have hrd : (comparing (operands args) c).rules = c.rules := (Context.Leads.comparing _).rules
    have hkept {i : Nat} {s : Pattern.Slot} {enclosed : Bool} {arg : Expr}
        (hs : rule.pattern.elements[i]? = some (.slot s enclosed))
        (ha : args[s.index]? = some arg) :=
      keptAt_iff (hrd ▸ hr) hop hs ha (helements _ (List.mem_of_getElem? hs))
    constructor
    · rintro hkeeps ⟨-, n, child, inner, harg, hmem, hsettled⟩
      obtain ⟨_, row, i, s, enclosed, hop', hrow, hs, rfl, hx⟩ := Rules.exists_exposed hmem
      obtain rfl := Option.some.inj (hop'.symm.trans hop)
      have hk := (hkept hs harg).mp (hkeeps hempty _ i s enclosed _ hrule hs harg)
      obtain ⟨hb, hnot⟩ := hk child inner row rfl hrow hx
      exact hnot (hsettled hb)
    · intro hnone _ rule' i s enclosed arg hrule' hs ha
      obtain rfl := Option.some.inj (hrule'.symm.trans hrule)
      refine (hkept hs ha).mpr fun child inner row harg hrow hx => ?_
      subst harg
      by_contra hnot
      refine hnone ⟨hempty, s.index, child, inner, ha, Rules.mem_takenApart hop hrow hs hx, fun hb => ?_⟩
      by_contra hsettled
      exact hnot ⟨hb, hsettled⟩

/-- All that is written of an expression keeps its operands exactly when nothing in it takes one apart. -/
theorem spots_keepOperands_iff {e : Expr} (hr : c.rules.operators = Rules.jdoqlOperators)
    (h : e.write c = .ok cs) :
    (∀ is s, e.spot? is c = some s → s.expr.KeepsOperands s.context) ↔
      ∀ is s, e.spot? is c = some s → ¬ s.expr.TakesApart s.context := by
  refine forall_congr' fun is => forall_congr' fun s => forall_congr' fun hs => ?_
  obtain ⟨_, -, hstand⟩ := Windowing.spot?_stand (W := .still) trivial (.refl (fun _ => rfl) e) hs
  have hstands := hstand.stands
  rw [h] at hstands
  obtain ⟨_, ds, _, _, _, _, hds, -⟩ := hstands.of_ok
  exact keepsOperands_iff (hstand.rules ▸ hr) hds

end Expr

section Cats

/-- Objects, one of which is written as `this`. -/
def amongCats : Context :=
  { Context.of .jdoql .resolving false [] with candidate := some (.source (.ofType "Cat") "cat") }

/-- The name of a cat, twice in a row. -/
def doubledName : Expr :=
  let name := Expr.path ((Path.source (.ofType "Cat") "cat").property "name" .text)
  .operation .concat [name, name]

theorem spots_keepOperands_iff_doubledName : ∃ cs,
    (Expr.operation .lower [doubledName]).write amongCats = .ok cs ∧
    Chunk.textFrom amongCats.rules 1 cs = "(this.name + this.name).toLowerCase()" ∧
    ((∀ is s, (Expr.operation .lower [doubledName]).spot? is amongCats = some s →
        s.expr.KeepsOperands s.context) ↔
      ∀ is s, (Expr.operation .lower [doubledName]).spot? is amongCats = some s →
        ¬ s.expr.TakesApart s.context) :=
  ⟨_, rfl, by decide +kernel, Expr.spots_keepOperands_iff rfl rfl⟩

/-- Only the second name is searched. -/
theorem not_keepsOperands_doubledName : ∃ cs,
    (Expr.operation .containsText [doubledName, .constant (.text "x")]).write amongCats = .ok cs ∧
    Chunk.textFrom amongCats.rules 1 cs = "this.name + this.name.indexOf(:a1) > -1" ∧
    ¬ (Expr.operation .containsText [doubledName, .constant (.text "x")]).KeepsOperands amongCats := by
  refine ⟨_, rfl, by decide +kernel, ?_⟩
  rw [Expr.keepsOperands_iff rfl rfl, not_not]
  exact ⟨rfl, 0, .concat, _, rfl, by decide, fun h => absurd h (by decide)⟩

end Cats

end QueryText
