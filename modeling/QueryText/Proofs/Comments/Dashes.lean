import QueryText.Proofs.Comments.Queries
import QueryText.Proofs.Searching.Searches

namespace QueryText

open Render Comments Operand

theorem Rules.legible_onOneLine (d : Dialect) (h : (ofDialect d).grammar = .sql) :
    (ofDialect d).onOneLine.Legible := by
  have hl := legible_of_sql d h
  have hoperators : (ofDialect d).onOneLine.operators = (ofDialect d).operators :=
    funext (operators_onOneLine d)
  obtain ⟨q, hq⟩ := hl.quotes
  exact { hl with
    quotes := ⟨q, hq.quote, hq.notName, hq.notDot⟩
    clauseBreak := hl.quiet_words (s := " ") (by decide)
    operators := fun op rule hop => hl.operators op rule (hoperators ▸ hop)
    negate := hoperators ▸ hl.negate
    instanceOf := hoperators ▸ hl.instanceOf }

namespace Expr

def Tells (e : Expr) : Prop :=
  ∀ c : Context, c.rules.Legible → c.mode ≠ .preview → e.Fragmentless c →
    CommentsIff c e.write (e.DashesMeet c)

variable {e : Expr} {es args : List Expr}

theorem tells_leaf (hparts : ∀ c i, e.part? c i = none) (hclash : ∀ c, ¬ e.Clashes c)
    (h : ∀ c : Context, c.rules.Legible → c.mode ≠ .preview → CommentsIff c e.write False) : e.Tells := by
  refine fun c hr hm _ => (h c hr hm).congr ⟨False.elim, fun hmeet => ?_⟩
  obtain hc | ⟨i, a, d, hpart, -⟩ := dashesMeet_iff.mp hmeet
  · exact hclash c hc
  · simp [hparts] at hpart

theorem tells_of_parts {op : Operator}
    (h : ∀ (c : Context) i a d, c.rules.Legible → (operation op args).part? c i = some (a, d) → a.Tells) :
    (operation op args).Tells := by
  refine fun c hr hm hf => operation_commentsIff hr hm hf fun i a d hp => ?_
  have hkept := leads_of_part? hp
  exact h c i a d hr hp d (by rwa [hkept.rules]) (by rwa [hkept.mode]) (hf.part hp)

theorem tells_concat (h : ∀ a ∈ args, a.Tells) : (operation .concat args).Tells := by
  -- Wildcards are put around an argument by concatenations, which do not want any themselves.
  refine tells_of_parts fun c i a d hr hp => ?_
  obtain ⟨-, rfl, rule, s, hrule, hs, -, ha⟩ := Windowing.part?_operation.mp hp
  obtain ⟨-, -, -, -, hbare⟩ := Rules.legibleRule_iff.mp (hr.operators _ rule hrule)
  obtain ⟨el, hel, hs⟩ := Option.bind_eq_some_iff.mp hs
  have haffix : s.affix = .bare := by
    have hall := List.all_eq_true.mp (hbare rfl) el (List.mem_of_getElem? hel)
    cases el with
    | text t => cases hs
    | slot s' enclosed =>
      obtain rfl := Option.some.inj hs
      simpa using hall
  obtain ⟨b, hb, ha⟩ := Option.bind_eq_some_iff.mp ha
  rw [if_pos haffix] at ha
  obtain rfl := Option.some.inj ha
  exact h b (List.mem_of_getElem? hb)

theorem tells_constant (v : Value) : (constant v).Tells :=
  tells_leaf (fun _ _ => rfl) (fun _ h => nomatch h) fun _ hr hm => (writeValue_leaf hr.toCalm hm v).commentsIff

theorem tells_withWildcards (h : e.Tells) (a : Affix) : (e.withWildcards a).Tells := by
  have hpercent : (constant (.text "%")).Tells := tells_constant _
  have hpair {x y : Expr} (hx : x.Tells) (hy : y.Tells) : (operation .concat [x, y]).Tells :=
    tells_concat (by simp [hx, hy])
  cases a with
  | bare => exact h
  | leading => exact hpair hpercent h
  | trailing => exact hpair h hpercent
  | both => exact hpair (hpair hpercent h) hpercent

theorem exists_arg_of_part? {op : Operator} {c d : Context} {i : Nat} {a : Expr}
    (hp : (operation op args).part? c i = some (a, d)) : ∃ b ∈ args, ∃ w, a = b.withWildcards w := by
  obtain ⟨-, rfl, rule, s, -, -, -, ha⟩ := Windowing.part?_operation.mp hp
  obtain ⟨b, hb, ha⟩ := Option.bind_eq_some_iff.mp ha
  refine ⟨b, List.mem_of_getElem? hb, ?_⟩
  split at ha
  · obtain rfl := Option.some.inj ha
    exact ⟨.bare, rfl⟩
  · rw [Option.ite_none_left_eq_some] at ha
    exact ⟨s.affix, (Option.some.inj ha.2).symm⟩

theorem tells_operation (op : Operator) (h : ∀ a ∈ args, a.Tells) : (operation op args).Tells := by
  refine tells_of_parts fun c i a d _ hp => ?_
  obtain ⟨b, hb, w, rfl⟩ := exists_arg_of_part? hp
  exact tells_withWildcards (h b hb) w

theorem tells_conjunction (h : ∀ a ∈ es, a.Tells) : ∀ a ∈ Expr.conjunction? es, a.Tells := by
  cases es with
  | nil => simp [conjunction?]
  | cons e es =>
    obtain ⟨he, hes⟩ := List.forall_mem_cons.mp h
    rintro a ha
    obtain rfl := Option.some.inj ha
    clear h
    induction es generalizing e with
    | nil => exact he
    | cons e' es ih =>
      obtain ⟨he', hes⟩ := List.forall_mem_cons.mp hes
      exact ih (e.and e') (tells_operation .and (by simp [he, he'])) hes rfl

theorem tells_subQuery {q : Select Expr}
    (h : ∀ r : Rules, r.grammar = .sql → ∀ a ∈ q.parts .rows r, a.Tells) : (subQuery q).Tells := by
  intro c hr hm hf cs hcs n
  have hin {i : Nat} {a : Expr} (hi : (q.parts .rows c.rules)[i]? = some a) :
      (subQuery q).part? c i = some (a, c.inside q.params) := by
    simp [part?, hi]
  have hcalm : (c.inside q.params).rules.Calm := hr.toCalm
  have hgathers : CommentsIff (c.inside q.params) (q.write .rows)
      (∃ a ∈ q.parts .rows c.rules, a.DashesMeet (c.inside q.params)) := by
    refine Gathers.rows hcalm hr.grammar (fun j hj f hjf => hf.flags [] _ rfl q rfl j hj f hjf) ?_
    intro a ha
    obtain ⟨i, hi⟩ := List.mem_iff_getElem?.mp ha
    exact h c.rules hr.grammar a ha (c.inside q.params) hr hm (hf.part (hin hi))
  have hcs' : Writer.parenthesized (q.write .rows) (c.inside q.params) = .ok cs := by
    rw [← Windowing.write_subQuery]
    exact hcs
  refine (hgathers.parenthesized hcalm cs hcs' n).congr ⟨?_, fun hmeet => ?_⟩
  · rintro ⟨a, ha, hmeet⟩
    obtain ⟨i, hi⟩ := List.mem_iff_getElem?.mp ha
    exact dashesMeet_iff.mpr (.inr ⟨i, a, _, hin hi, hmeet⟩)
  · obtain hclash | ⟨i, a, d, hpart, hmeet⟩ := dashesMeet_iff.mp hmeet
    · cases hclash
    · obtain ⟨_, hi, hpair⟩ := Option.map_eq_some_iff.mp hpart
      obtain ⟨rfl, rfl⟩ := Prod.mk.inj hpair
      exact ⟨_, List.mem_of_getElem? hi, hmeet⟩

end Expr

namespace Select

structure Tells (q : Select Expr) : Prop where
  joins : ∀ j ∈ q.joins, j.target.Tells ∧ ∀ e ∈ j.condition, e.Tells
  filter : ∀ e ∈ q.filter, e.Tells
  having : ∀ e ∈ q.having, e.Tells
  groupBy : ∀ e ∈ q.groupBy, e.Tells
  orderBy : ∀ o ∈ q.orderBy, o.target.Tells
  projection : ∀ e ∈ q.projection, e.Tells

namespace Tells

variable {q : Select Expr} {r : Rules} {j first : Join Expr}

theorem condition (h : q.Tells) (hj : j ∈ q.joins) : ∀ a ∈ j.condition.toList, a.Tells :=
  fun a ha => (h.joins j hj).2 a (Option.mem_toList.mp ha)

theorem targetParts (h : q.Tells) (hj : j ∈ q.joins) : ∀ a ∈ Select.targetParts j, a.Tells := by
  intro a ha
  unfold Select.targetParts at ha
  split at ha
  · cases ha
  · obtain rfl := List.mem_singleton.mp ha
    exact (h.joins j hj).1

theorem laterParts (h : q.Tells) (hj : j ∈ q.joins) : ∀ a ∈ Select.laterParts j, a.Tells := by
  refine List.forall_mem_append.mpr ⟨h.targetParts hj, ?_⟩
  split
  · simp
  · exact h.condition hj

theorem rowsParts (h : q.Tells) (hg : r.grammar = .sql) : ∀ a ∈ q.rowsParts r first, a.Tells := by
  unfold Select.rowsParts
  split
  · simp [hg]
  · intro a ha
    obtain ⟨e, he, ha⟩ := List.mem_flatMap.mp ha
    unfold projectedParts at ha
    split at ha
    · cases ha
    · obtain rfl := List.mem_singleton.mp ha
      exact h.projection a he

theorem conditions (h : q.Tells) : ∀ a ∈ q.conditions, a.Tells := by
  unfold Select.conditions
  split
  · simp
  · next first rest hq =>
    have hfirst : first ∈ q.joins := by simp [hq]
    refine List.forall_mem_append.mpr ⟨List.forall_mem_append.mpr ⟨h.condition hfirst, fun a ha => ?_⟩,
      fun a ha => h.filter a (Option.mem_toList.mp ha)⟩
    obtain ⟨j, hj, ha⟩ := List.mem_flatMap.mp ha
    exact h.condition (by simp [hq, List.mem_of_mem_filter hj]) a ha

theorem tailParts (h : q.Tells) : ∀ a ∈ q.tailParts .rows, a.Tells := by
  refine List.forall_mem_append.mpr ⟨List.forall_mem_append.mpr ⟨h.groupBy, fun a ha => ?_⟩, ?_⟩
  · exact h.having a (Option.mem_toList.mp ha)
  · simpa using h.orderBy

theorem parts (h : q.Tells) (hg : r.grammar = .sql) : ∀ a ∈ q.parts .rows r, a.Tells := by
  have hstatement : q.parts .rows r = q.statementParts .rows r := by
    simp [Select.parts, hg, relationalParts, countsAround]
  rw [hstatement]
  unfold statementParts
  split
  · simp
  · next first rest hq =>
    have hsources : ∀ a ∈ Select.targetParts first ++ rest.flatMap Select.laterParts, a.Tells := by
      refine List.forall_mem_append.mpr ⟨h.targetParts (by simp [hq]), fun a ha => ?_⟩
      obtain ⟨j, hj, ha⟩ := List.mem_flatMap.mp ha
      exact h.laterParts (by simp [hq, hj]) a ha
    have hfilter : ∀ a ∈ (Expr.conjunction? q.conditions).toList, a.Tells := fun a ha =>
      Expr.tells_conjunction h.conditions a (Option.mem_toList.mp ha)
    have hhead : ∀ a ∈ q.rowsParts r first, a.Tells := h.rowsParts hg
    exact List.forall_mem_append.mpr ⟨List.forall_mem_append.mpr
      ⟨List.forall_mem_append.mpr ⟨hhead, hsources⟩, hfilter⟩, h.tailParts⟩

end Tells

end Select

namespace Expr

mutual

theorem tells : (e : Expr) → e.Tells
  | .path p =>
    tells_leaf (fun _ _ => rfl) (fun _ h => nomatch h) fun _ hr _ => (writePath_leaf hr.toCalm p).commentsIff
  | .constant v => tells_constant v
  | .param p =>
    tells_leaf (fun _ _ => rfl) (fun _ h => nomatch h) fun _ hr hm => (writeParam_leaf hr.toCalm hm p).commentsIff
  | .operation op args => tells_operation op (tells_list args)
  | .custom f args => fun _ _ _ hf => absurd rfl (hf.custom [] _ rfl f args)
  | .subQuery q => tells_subQuery fun _ hg => (tells_select q).parts hg

theorem tells_list : (es : List Expr) → ∀ e ∈ es, e.Tells
  | [] => by simp
  | e :: es => List.forall_mem_cons.mpr ⟨tells e, tells_list es⟩

theorem tells_option : (o : Option Expr) → ∀ e ∈ o, e.Tells
  | none => by simp
  | some e => by simpa using tells e

theorem tells_joins : (js : List (Join Expr)) → ∀ j ∈ js, j.target.Tells ∧ ∀ e ∈ j.condition, e.Tells
  | [] => by simp
  | ⟨_, target, condition, _⟩ :: js =>
    List.forall_mem_cons.mpr ⟨⟨tells target, tells_option condition⟩, tells_joins js⟩

theorem tells_orders : (os : List (Order Expr)) → ∀ o ∈ os, o.target.Tells
  | [] => by simp
  | ⟨target, _, _⟩ :: os => List.forall_mem_cons.mpr ⟨tells target, tells_orders os⟩

theorem tells_select : (q : Select Expr) → q.Tells
  | ⟨joins, _, filter, having, groupBy, orderBy, projection, _, _, _, _⟩ =>
    ⟨tells_joins joins, tells_option filter, tells_option having, tells_list groupBy, tells_orders orderBy,
      tells_list projection⟩

end

/-- Whatever is written of an expression in an SQL dialect, a comment begins in it exactly if somewhere
in the expression two dashes meet. -/
theorem hasComment_iff_clashes {d : Dialect} (hd : (Rules.ofDialect d).grammar = .sql) {c : Context}
    (hr : c.rules = .ofDialect d ∨ c.rules = (Rules.ofDialect d).onOneLine) (hm : c.mode ≠ .preview)
    {e : Expr} (hf : e.Fragmentless c) {cs : List Chunk} (hcs : e.write c = .ok cs) (n : Nat) :
    HasComment c.rules.marks (Chunk.textFrom c.rules n cs) ↔
      ∃ is s, e.spot? is c = some s ∧ s.expr.Clashes s.context := by
  have hlegible : c.rules.Legible := by
    obtain hr | hr := hr
    · exact hr ▸ Rules.legible_of_sql d hd
    · exact hr ▸ Rules.legible_onOneLine d hd
  have hdecides := e.tells c hlegible hm hf cs hcs n
  rw [← read_eq_none_iff hlegible.notDash]
  constructor
  · intro hnone
    by_contra hno
    simp [hdecides.goesOn hno] at hnone
  · exact hdecides.stops

/-- Put together with operators, from paths, values and parameters. -/
inductive OfOperators : Expr → Prop where
  | path (p : Path) : OfOperators (.path p)
  | constant (v : Value) : OfOperators (.constant v)
  | param (p : Param) : OfOperators (.param p)
  | operation (op : Operator) {args : List Expr} (h : ∀ a ∈ args, OfOperators a) :
      OfOperators (.operation op args)

namespace OfOperators

variable {e : Expr}

theorem withWildcards (h : e.OfOperators) (a : Affix) : (e.withWildcards a).OfOperators := by
  have hpair {x y : Expr} (hx : x.OfOperators) (hy : y.OfOperators) :
      (Expr.operation .concat [x, y]).OfOperators := .operation _ (by simp [hx, hy])
  cases a with
  | bare => exact h
  | leading => exact hpair (.constant _) h
  | trailing => exact hpair h (.constant _)
  | both => exact hpair (hpair (.constant _) h) (.constant _)

theorem part {c d : Context} {a : Expr} {i : Nat} (h : e.OfOperators) (hp : e.part? c i = some (a, d)) :
    a.OfOperators := by
  cases h with
  | path _ | constant _ | param _ => cases hp
  | operation op h =>
    obtain ⟨b, hb, w, rfl⟩ := exists_arg_of_part? hp
    exact (h b hb).withWildcards w

theorem spot {c : Context} {is : List Nat} {s : Spot} (h : e.OfOperators) (hs : e.spot? is c = some s) :
    s.expr.OfOperators := by
  induction is generalizing e c s with
  | nil =>
    obtain rfl := Option.some.inj hs
    exact h
  | cons i is ih =>
    obtain ⟨⟨a, d⟩, hpart, hs⟩ := Option.bind_eq_some_iff.mp hs
    obtain ⟨t, ht, rfl⟩ := Option.map_eq_some_iff.mp hs
    have hexpr : t.expr.OfOperators := ih (h.part hpart) ht
    exact hexpr

theorem fragmentless (h : e.OfOperators) (c : Context) : e.Fragmentless c where
  custom is s hs f args hcustom := by
    have hspot := h.spot hs
    rw [hcustom] at hspot
    cases hspot
  flags is s hs q hq := by
    have hspot := h.spot hs
    rw [hq] at hspot
    cases hspot

end OfOperators

end Expr

section Cats

/-- Part of the name of a cat, from a position in front of it. -/
def namePart : Expr :=
  let name := Expr.path ((Path.source (.ofType "Cat") "cat").property "name" .text)
  .operation .substringBetween [name, .constant (.int (-1)), .constant (.int 3)]

theorem ofOperators_namePart : namePart.OfOperators :=
  .operation _ (by simp [Expr.OfOperators.path, Expr.OfOperators.constant])

theorem hasComment_iff_clashes_namePart :
    let c := Context.of (.ofDialect .ansi) .resolving true []
    ∃ cs, namePart.write c = .ok cs ∧
      Chunk.textFrom c.rules 1 cs = "substr(cat.name, -1+1, 3--1)" ∧
      (HasComment c.rules.marks (Chunk.textFrom c.rules 1 cs) ↔
        ∃ is s, namePart.spot? is c = some s ∧ s.expr.Clashes s.context) :=
  ⟨_, rfl, by decide +kernel, Expr.hasComment_iff_clashes (d := .ansi) rfl (.inl rfl) (by decide)
    (ofOperators_namePart.fragmentless _) rfl 1⟩

/-- The opposite of the opposite of the number of a cat, compared with one. -/
def oppositeTwice : Expr :=
  let id := Expr.path ((Path.source (.ofType "Cat") "cat").property "id" .int)
  .operation .eq [.operation .negate [.operation .negate [id]], .constant (.int 1)]

/-- All of the comparison is a comment. -/
theorem hasComment_oppositeTwice :
    let c := Context.of (.ofDialect .ansi) .resolving false []
    ∃ cs, oppositeTwice.OfOperators ∧ oppositeTwice.write c = .ok cs ∧
      Chunk.textFrom c.rules 1 cs = "--cat.id = ?" ∧
      HasComment c.rules.marks (Chunk.textFrom c.rules 1 cs) := by
  have hoperators : oppositeTwice.OfOperators :=
    .operation _ (by simp [Expr.OfOperators.path, Expr.OfOperators.constant, Expr.OfOperators.operation])
  refine ⟨_, hoperators, rfl, by decide +kernel, ?_⟩
  exact ⟨[], "cat.id = ?".toList, by decide +kernel, rfl⟩

end Cats

end QueryText
