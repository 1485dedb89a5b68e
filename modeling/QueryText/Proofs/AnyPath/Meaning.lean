import QueryText.Proofs.AnyPath.Faithful
import QueryText.Proofs.AnyPath.Predicate
import QueryText.Query.Builder

namespace QueryText

open Query Query.AnyPath

variable {α : Type}

namespace Model

variable (M : Model α)

/-- The variable of an inner join stands for an element of its collection. -/
def Joined (σ : Assignment α) (j : Join Expr) : Prop :=
  ∃ c v, j = .of .inner (.aliased (.path c) v) ∧ σ v ∈ M.contents (M.path σ c)

/-- The candidate comes through the joins and the filter: there are values for the variables that the
joins declare with which all joins are met and the filter is true. -/
def Selects (ρ : Assignment α) (js : List (Join Expr)) (filter : Option Expr) : Prop :=
  ∃ σ, (∀ v, (∀ j ∈ js, Builder.declared? j.target ≠ some v) → σ v = ρ v) ∧
    (∀ j ∈ js, M.Joined σ j) ∧ ∀ e ∈ filter, M.Holds σ e

/-- The candidate comes through what filtering by the predicate adds to the query. -/
def Selected (ρ : Assignment α) (b : Builder) (p : Predicate) : Prop :=
  let q := (b.filter [some p.expr]).builder.select
  M.Selects ρ (q.joins.drop b.select.joins.length) q.filter

/-- The sub-query does not look at these variables of the query around it. -/
def Ignores (q : Select Expr) (vs : List Path) : Prop :=
  ∀ σ τ : String → Kind → α, (∀ n k, .root n k ∉ vs → σ n k = τ n k) → M.subQuery q σ = M.subQuery q τ

/-- The table is just of the nodes of the condition, and nothing else in the condition looks at the
elements of the table. -/
structure Normalizes (first : Nat) (rs : List Replacement) (e : Expr) : Prop where
  table : Table first rs
  nodes : ∀ x, x ∈ nodesOf rs ↔ x ∈ e.anyNodes
  fresh : Fresh rs e
  blind : ∀ q ∈ e.subQueries, M.Ignores q (elementsOf rs)

variable {M} {ρ σ τ χ : Assignment α} {first : Nat} {rs : List Replacement} {e : Expr}

namespace Normalizes

variable (h : M.Normalizes first rs e)
include h

theorem nodeSet : NodeSet (nodesOf rs) := by
  intro x hx
  obtain ⟨c, n, k, hc, hsub⟩ := e.nodeSet_anyNodes x ((h.nodes x).mp hx)
  exact ⟨c, n, k, hc, fun y hy => (h.nodes y).mpr (hsub hy)⟩

theorem root_notMem {v : Path} (hv : v ∈ e.roots) : v ∉ elementsOf rs := by
  intro he
  obtain ⟨r, hr, rfl⟩ := List.mem_map.mp he
  exact h.fresh r hr hv

theorem node_root_notMem {x : Path} (hx : x ∈ e.anyNodes) : x.rootVariable ∉ elementsOf rs :=
  h.root_notMem (Expr.rootVariable_mem_roots hx)

theorem declared {r : Replacement} (hr : r ∈ rs) :
    Builder.declared? r.join.target = some r.element := by
  obtain ⟨m, l, he⟩ := h.table.element_root hr
  simp only [Replacement.join, Join.of, Expr.aliased, Builder.declared?]

theorem chooses_iff : M.Chooses ρ χ (nodesOf rs) ↔ M.Chooses ρ χ e.anyNodes := by
  constructor
  · intro hχ
    exact ⟨fun v hv => hχ.same v fun hx => hv ((h.nodes v).mp hx),
      fun c n k hx => hχ.element c n k ((h.nodes _).mpr hx)⟩
  · intro hχ
    exact ⟨fun v hv => hχ.same v fun hx => hv ((h.nodes v).mpr hx),
      fun c n k hx => hχ.element c n k ((h.nodes _).mp hx)⟩

end Normalizes

/-- The elements are worth what their nodes are, and other variables are worth the same. -/
structure Agree (rs : List Replacement) (σ τ : Assignment α) : Prop where
  element : ∀ r ∈ rs, σ r.element = τ r.node
  other : ∀ n k, .root n k ∉ elementsOf rs → σ (.root n k) = τ (.root n k)

theorem path_viaElements (ht : Table first rs) (ha : Agree rs σ τ) {p : Path}
    (hp : p.anyNodes ⊆ nodesOf rs) (hroot : p.rootVariable ∉ elementsOf rs) :
    M.path σ (viaElements rs p) = M.path τ p := by
  induction p with
  | root n k => exact ha.other n k hroot
  | child p n r k ih =>
    by_cases hr : r = .anyElement
    · have hx : Path.child p n r k ∈ nodesOf rs := hp (by simp [Path.anyNodes, hr])
      obtain ⟨r', hr', hnode⟩ := List.mem_map.mp hx
      obtain ⟨m, l, he⟩ := ht.element_root hr'
      have hvalue := ha.element r' hr'
      rw [hnode, he] at hvalue
      rw [← hnode, ht.viaElements_node hr', he, hnode]
      simpa only [path, if_pos hr] using hvalue
    · rw [Path.anyNodes_child hr] at hp
      simp only [viaElements, path, if_neg hr, ih hp hroot]

theorem holds_viaElements (h : M.Normalizes first rs e) (ha : Agree rs σ τ) :
    M.Holds σ (e.mapPaths (viaElements rs)) ↔ M.Holds τ e := by
  have heval : M.eval σ (e.mapPaths (viaElements rs)) = M.eval τ e := by
    refine eval_mapPaths e (fun p hp => ?_) fun q hq => h.blind q hq _ _ ha.other
    have hcovered : p.anyNodes ⊆ nodesOf rs :=
      fun x hx => (h.nodes x).mpr (Expr.anyNodes_subset hp hx)
    exact path_viaElements h.table ha hcovered (h.root_notMem (List.mem_map_of_mem hp))
  rw [Holds, Holds, heval]

theorem element_mem_iff (h : M.Normalizes first rs e) (ha : Agree rs σ τ) {r : Replacement}
    (hr : r ∈ rs) {c : Path} {n : String} {k : Kind} (hnode : r.node = .child c n .anyElement k) :
    σ r.element ∈ M.contents (M.path σ r.collection) ↔
      τ (.child c n .anyElement k) ∈ M.contents (M.path τ c) := by
  obtain ⟨p, m, l, hnode', hp, hcoll⟩ := h.table.collection_eq hr
  have hroot := h.node_root_notMem ((h.nodes _).mp (List.mem_map_of_mem hr))
  rw [hnode'] at hnode hroot
  cases hnode
  rw [ha.element r hr, hnode', hcoll, path_viaElements h.table ha hp hroot]

def nodeValues (rs : List Replacement) (ρ σ : Assignment α) : Assignment α :=
  fun v => if v ∈ nodesOf rs then σ (viaElements rs v) else ρ v

theorem agree_nodeValues (h : M.Normalizes first rs e) (hσ : ∀ v, v ∉ elementsOf rs → σ v = ρ v) :
    Agree rs σ (nodeValues rs ρ σ) := by
  constructor
  · intro r hr
    have hmem : r.node ∈ nodesOf rs := List.mem_map_of_mem hr
    rw [nodeValues, if_pos hmem, h.table.viaElements_node hr]
  · intro n k hv
    rw [nodeValues, if_neg (h.nodeSet.root_notMem n k), hσ _ hv]

def elementValues (rs : List Replacement) (ρ χ : Assignment α) : Assignment α :=
  fun v => ((rs.find? (·.element == v)).map fun r => χ r.node).getD (ρ v)

theorem elementValues_of_notMem {v : Path} (hv : v ∉ elementsOf rs) :
    elementValues rs ρ χ v = ρ v := by
  rw [elementValues, find?_element_eq_none hv]
  rfl

theorem agree_elementValues (h : M.Normalizes first rs e) (hχ : M.Chooses ρ χ (nodesOf rs)) :
    Agree rs (elementValues rs ρ χ) χ := by
  constructor
  · intro r hr
    rw [elementValues, h.table.find?_element hr]
    rfl
  · intro n k hv
    rw [elementValues_of_notMem hv, hχ.root h.nodeSet]

theorem chooses_of_selects (h : M.Normalizes first rs e)
    (hs : M.Selects ρ (rs.map (·.join)) (some (e.mapPaths (viaElements rs)))) :
    ∃ χ, M.Chooses ρ χ e.anyNodes ∧ M.Holds χ e := by
  obtain ⟨σ, hsame, hjoined, hholds⟩ := hs
  have hσ : ∀ v, v ∉ elementsOf rs → σ v = ρ v := by
    intro v hv
    refine hsame v fun j hj hd => ?_
    obtain ⟨r, hr, rfl⟩ := List.mem_map.mp hj
    rw [h.declared hr] at hd
    exact hv (List.mem_map.mpr ⟨r, hr, Option.some.inj hd⟩)
  have ha := agree_nodeValues h hσ
  refine ⟨nodeValues rs ρ σ, h.chooses_iff.mp ⟨fun v hv => if_neg hv, ?_⟩,
    (holds_viaElements h ha).mp (hholds _ rfl)⟩
  intro c n k hx
  obtain ⟨r, hr, hnode⟩ := List.mem_map.mp hx
  obtain ⟨c', v, hjoin, hv⟩ := hjoined r.join (List.mem_map_of_mem hr)
  cases hjoin
  exact (element_mem_iff h ha hr hnode).mp hv

theorem selects_of_chooses (h : M.Normalizes first rs e) (hχ : M.Chooses ρ χ e.anyNodes)
    (hholds : M.Holds χ e) :
    M.Selects ρ (rs.map (·.join)) (some (e.mapPaths (viaElements rs))) := by
  have hχ' := h.chooses_iff.mpr hχ
  have ha := agree_elementValues h hχ'
  refine ⟨elementValues rs ρ χ, fun v hv => elementValues_of_notMem fun he => ?_, fun j hj => ?_,
    fun f hf => ?_⟩
  · obtain ⟨r, hr, rfl⟩ := List.mem_map.mp he
    exact hv r.join (List.mem_map_of_mem hr) (h.declared hr)
  · obtain ⟨r, hr, rfl⟩ := List.mem_map.mp hj
    obtain ⟨p, m, l, hnode, -⟩ := h.table.collection_eq hr
    refine ⟨r.collection, r.element, rfl, (element_mem_iff h ha hr hnode).mpr ?_⟩
    exact hχ'.element p m l (hnode ▸ List.mem_map_of_mem hr)
  · obtain rfl := Option.some.inj hf
    exact (holds_viaElements h ha).mpr hholds

variable {b : Builder} {p : Predicate}

/-- What the query asks for already is true whatever the new variables stand for, and nothing but the
rewritten condition looks at them. -/
structure Undisturbed (M : Model α) (ρ : Assignment α) (b : Builder) (p : Predicate) : Prop where
  earlier : ∀ e ∈ b.select.filter, ∀ σ,
    (∀ v, v ∉ elementsOf (normalize p.expr b.nextElement).replaced → σ v = ρ v) → M.Holds σ e
  fresh : Fresh (normalize p.expr b.nextElement).replaced p.expr
  blind : ∀ q ∈ p.expr.subQueries, M.Ignores q (elementsOf (normalize p.expr b.nextElement).replaced)

theorem selects_conjoin {js : List (Join Expr)} {earlier : Option Expr}
    (h : ∀ f ∈ earlier, ∀ σ,
      (∀ v, (∀ j ∈ js, Builder.declared? j.target ≠ some v) → σ v = ρ v) → M.Holds σ f) :
    M.Selects ρ js (some (Expr.conjoin earlier e)) ↔ M.Selects ρ js (some e) := by
  refine exists_congr fun σ => and_congr_right fun hsame => and_congr_right fun _ => ?_
  simp only [Option.mem_some_iff, forall_eq']
  cases earlier with
  | none => exact Iff.rfl
  | some f => exact (M.isTrue_and _ _).trans (and_iff_right (h f rfl σ hsame))

theorem selected_iff (hb : b.normalizing = true) (h : M.Undisturbed ρ b p) :
    M.Selected ρ b p ↔ ∃ χ, M.Chooses ρ χ p.expr.anyNodes ∧ M.Holds χ p.expr := by
  obtain ⟨rs, ht, hnodes, hn⟩ := normalize_eq p.expr b.nextElement
  have hearlier := h.earlier
  have hfresh := h.fresh
  have hblind := h.blind
  rw [hn] at hearlier hfresh hblind
  have hrs : M.Normalizes b.nextElement rs p.expr := ⟨ht, hnodes, hfresh, hblind⟩
  have hq : M.Selected ρ b p ↔ M.Selects ρ (rs.map (·.join))
      (some (Expr.conjoin b.select.filter (p.expr.mapPaths (viaElements rs)))) := by
    simp only [Selected, Builder.filter, Builder.addConditions, Builder.normalized, if_pos hb, hn,
      Normalized.joins, Select.addFilter, Select.addSyntheticJoins, List.drop_left]
  rw [hq, selects_conjoin fun f hf σ hσ => hearlier f hf σ fun v hv => hσ v ?_]
  · exact ⟨chooses_of_selects hrs, fun ⟨χ, hχ, hholds⟩ => selects_of_chooses hrs hχ hholds⟩
  · intro j hj hd
    obtain ⟨r, hr, rfl⟩ := List.mem_map.mp hj
    rw [hrs.declared hr, Option.some.injEq] at hd
    exact hv (List.mem_map.mpr ⟨r, hr, hd⟩)

theorem selected_iff_trueOf_iff_choices (hb : b.normalizing = true) (h : M.Undisturbed ρ b p)
    (hp : p.Apart) :
    (M.Selected ρ b p ↔ M.TrueOf ρ p) ↔
      (M.TrueOf ρ p → M.Populated ρ p.expr) ∧
        ∀ χ, M.Chooses ρ χ p.expr.anyNodes → M.Holds χ p.expr → M.TrueOf ρ p := by
  rw [selected_iff hb h]
  constructor
  · intro hiff
    refine ⟨fun ht => ?_, fun χ hχ hholds => hiff.mp ⟨χ, hχ, hholds⟩⟩
    obtain ⟨χ, hχ, -⟩ := hiff.mpr ht
    exact ⟨χ, hχ⟩
  · rintro ⟨hpop, hchoice⟩
    refine ⟨fun ⟨χ, hχ, hholds⟩ => hchoice χ hχ hholds, fun ht => ?_⟩
    obtain ⟨χ, hχ, hiff⟩ := exists_choice_of_apart hp (hpop ht)
    exact ⟨χ, hχ, hiff.mpr ht⟩

/-- Selection is the truth of the predicate under exactly two conditions: where the predicate is true,
all its collections have elements, and no one choice of elements for the whole filter makes it true
where it is not. There is no such choice if no node stands below a negation. -/
theorem selected_iff_trueOf_iff (hb : b.normalizing = true) (h : M.Undisturbed ρ b p)
    (hp : p.Apart) :
    ((M.Selected ρ b p ↔ M.TrueOf ρ p) ↔
      (M.TrueOf ρ p → M.Populated ρ p.expr) ∧
        ∀ χ, M.Chooses ρ χ p.expr.anyNodes → M.Holds χ p.expr → M.TrueOf ρ p) ∧
      (p.Positive → ((M.Selected ρ b p ↔ M.TrueOf ρ p) ↔ (M.TrueOf ρ p → M.Populated ρ p.expr))) := by
  have hexact := selected_iff_trueOf_iff_choices hb h hp
  refine ⟨hexact, fun hpos => hexact.trans (and_iff_left fun χ hχ hholds => ?_)⟩
  exact trueOf_of_holds hχ p.expr.nodeSet_anyNodes p hpos (fun _ he => p.anyNodes_subset he) hholds

section Numbered

/-- Numbers for objects: every property of an object is the object itself, and its collections all
have the same contents. -/
def numbered (contents : Int → Set Int) : Model Int where
  property x _ _ := x
  contents := contents
  constant
    | .int n => n.toInt
    | _ => 0
  param _ := 0
  operation
    | .and, [a, b] => if a ≠ 0 ∧ b ≠ 0 then 1 else 0
    | .or, [a, b] => if a ≠ 0 ∨ b ≠ 0 then 1 else 0
    | .not, [a] => if a = 0 then 1 else 0
    | .eq, [a, b] => if a = b then 1 else 0
    | _, _ => 0
  custom _ _ := 0
  subQuery _ _ := 0
  IsTrue x := x ≠ 0
  isTrue_and a b := by simp
  isTrue_or a b := by by_cases ha : a = 0 <;> simp [ha]
  isTrue_not a := by simp

def cats : Builder :=
  (Builder.empty true).sources [.path (.root "cat" (.entity (.ofType "Cat")))]

/-- The cats with a kitten of that name, and the cat of that number. -/
def namedOrFirst : Predicate :=
  let cat := Path.root "cat" (.entity (.ofType "Cat"))
  let kitten := (cat.collection "kittens" (.entity (.ofType "Cat"))).anyElement
  .or
    (.comparison (.operation .eq [.path (kitten.property "name" .text), .constant (.text "a")]))
    (.comparison (.operation .eq [.path (cat.property "id" .int), .constant (.int 1)]))

theorem namedOrFirst_apart : namedOrFirst.Apart := by
  unfold Predicate.Apart
  decide +kernel

theorem undisturbed_namedOrFirst (M : Model α) (ρ : Assignment α) :
    M.Undisturbed ρ cats namedOrFirst where
  earlier := by
    simp [cats, Builder.sources, Builder.modify, Builder.empty, Select.empty, Select.addJoin]
  fresh := by decide +kernel
  blind := by simp [namedOrFirst, Predicate.expr, Expr.subQueries, Expr.subQueriesOfAll]

theorem trueOf_namedOrFirst (contents : Int → Set Int) :
    (numbered contents).TrueOf (fun _ => 1) namedOrFirst := by
  have hone : (numbered contents).IsTrue (if (1 : Int) = (1 : Int64).toInt then 1 else 0) := by
    simp [numbered]
  exact .inr ⟨_, .empty _, hone⟩

/-- The cat of that number is not selected if it has no kittens. -/
theorem namedOrFirst_not_selected :
    cats.normalizing = true ∧ namedOrFirst.Apart ∧
      (numbered fun _ => ∅).Undisturbed (fun _ => 1) cats namedOrFirst ∧
      ¬ ((numbered fun _ => ∅).Selected (fun _ => 1) cats namedOrFirst ↔
        (numbered fun _ => ∅).TrueOf (fun _ => 1) namedOrFirst) := by
  refine ⟨rfl, namedOrFirst_apart, undisturbed_namedOrFirst _ _, fun hiff => ?_⟩
  have hs := hiff.mpr (trueOf_namedOrFirst _)
  rw [selected_iff rfl (undisturbed_namedOrFirst _ _)] at hs
  obtain ⟨χ, hχ, -⟩ := hs
  obtain ⟨x, hx⟩ : ∃ x, x ∈ namedOrFirst.expr.anyNodes := ⟨_, List.mem_singleton_self _⟩
  obtain ⟨c, n, k, rfl, -⟩ := namedOrFirst.expr.nodeSet_anyNodes x hx
  exact hχ.element c n k hx

theorem namedOrFirst_selected_iff :
    (cats.normalizing = true ∧ namedOrFirst.Apart ∧
      (numbered fun _ => {2}).Undisturbed (fun _ => 1) cats namedOrFirst) ∧
      ((numbered fun _ => {2}).Selected (fun _ => 1) cats namedOrFirst ↔
        (numbered fun _ => {2}).TrueOf (fun _ => 1) namedOrFirst) := by
  have h := undisturbed_namedOrFirst (numbered fun _ => {2}) fun _ => 1
  refine ⟨⟨rfl, namedOrFirst_apart, h⟩,
    (selected_iff_trueOf_iff rfl h namedOrFirst_apart).1.mpr ⟨?_, ?_⟩⟩
  · intro _
    exact ⟨fun v => if v ∈ namedOrFirst.expr.anyNodes then 2 else 1, fun v hv => if_neg hv,
      fun c n k hx => if_pos hx⟩
  · intro _ _ _
    exact trueOf_namedOrFirst _

end Numbered

end Model

end QueryText
