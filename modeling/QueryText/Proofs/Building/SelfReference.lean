import QueryText.Proofs.Building.Scoping

namespace QueryText.Query

open AnyPath

/-- Outside of sub-queries, a path of the condition starts from the variable that the target declares and
goes through any element of a collection. -/
def SelfReferential (target : Expr) (c : Condition) : Prop :=
  ∃ e, c = some e ∧ ∃ v, Builder.declared? target = some v ∧
    ∃ p ∈ e.paths, p.throughAny = true ∧ p.rootVariable = v

/-- None of the elements that the condition is given is the variable that the target declares. -/
def ElementsApart (b : Builder) (target : Expr) (c : Condition) : Prop :=
  ∀ e, c = some e → ∀ v, Builder.declared? target = some v →
    v ∉ elementsOf (b.normalized e).replaced

/-- The condition has one element for each of its nodes, of the collection in front of the node. -/
structure OneForEach (c : Condition) (rs : List Replacement) : Prop where
  nodes (x : Path) : x ∈ nodesOf rs ↔ ∃ e, c = some e ∧ x ∈ e.anyNodes
  nodes_nodup : (nodesOf rs).Nodup
  elements_nodup : (elementsOf rs).Nodup
  collections {r : Replacement} (h : r ∈ rs) :
    ∃ p n k, r.node = .child p n .anyElement k ∧ r.collection = viaElements rs p

end QueryText.Query

namespace QueryText.Query.AnyPath

namespace Table

variable {first : Nat} {rs : List Replacement}

theorem exists_collection_root (h : Table first rs) {p : Path} (hp : p.anyNodes ⊆ nodesOf rs)
    (hany : p.throughAny = true) : ∃ r ∈ rs, r.collection.rootVariable = p.rootVariable := by
  obtain ⟨c, n, k, hx, hc⟩ := Path.exists_outermost hany
  obtain ⟨r, hr, hnode⟩ := List.mem_map.mp (hp hx)
  obtain ⟨d, m, l, hd, -, hcoll⟩ := h.collection_eq hr
  obtain ⟨rfl, -⟩ : d = c ∧ m = n ∧ Path.Role.anyElement = .anyElement ∧ l = k := by
    simpa using hd.symm.trans hnode
  refine ⟨r, hr, ?_⟩
  rw [hcoll, viaElements_of_plain rs hc]
  exact (Path.mem_anyNodes hx).2.1

theorem node_root_of_collection_root (h : Table first rs) {r : Replacement} (hr : r ∈ rs)
    (hv : r.collection.rootVariable ∉ elementsOf rs) :
    r.node.rootVariable = r.collection.rootVariable := by
  obtain ⟨i, hi⟩ := List.getElem?_of_mem hr
  obtain hroot | ⟨j, -, r', hr', he⟩ := h.collection_root hi
  · exact hroot.symm
  · exact absurd (he ▸ List.mem_map_of_mem (List.mem_of_getElem? hr')) hv

end Table

theorem exists_replaced_root_iff {e : Expr} {next : Nat} {v : Path}
    (hv : v ∉ elementsOf (normalize e next).replaced) :
    (∃ r ∈ (normalize e next).replaced, r.collection.rootVariable = v) ↔
      ∃ p ∈ e.paths, p.throughAny = true ∧ p.rootVariable = v := by
  obtain ⟨rs, ht, hnodes, hn⟩ := normalize_eq e next
  rw [hn] at hv ⊢
  constructor
  · rintro ⟨r, hr, rfl⟩
    have hnode := ht.node_root_of_collection_root hr hv
    obtain ⟨p, hp, hx⟩ := List.mem_flatMap.mp ((hnodes _).mp (List.mem_map_of_mem hr))
    refine ⟨p, hp, ?_, (Path.mem_anyNodes hx).2.1.symm.trans hnode⟩
    by_contra hplain
    rw [Bool.not_eq_true, ← Path.anyNodes_eq_nil_iff] at hplain
    rw [hplain] at hx
    cases hx
  · rintro ⟨p, hp, hany, rfl⟩
    exact ht.exists_collection_root (fun x hx => (hnodes x).mpr (Expr.anyNodes_subset hp hx)) hany

end QueryText.Query.AnyPath

namespace QueryText.Query

open AnyPath

namespace Builder

variable {b : Builder}

theorem selfReference?_ne_none_iff {target : Expr} {n : Normalized} :
    selfReference? target n ≠ none ↔
      ∃ v, declared? target = some v ∧ ∃ r ∈ n.replaced, r.collection.rootVariable = v := by
  cases hd : declared? target with
  | none => simp [selfReference?, hd]
  | some v =>
    simp only [selfReference?, hd, ne_eq, Option.map_eq_none_iff, List.find?_eq_none, beq_iff_eq,
      not_forall, not_not, exists_prop, Option.some.injEq, exists_eq_left']

theorem normalized_of_normalizing (hb : b.normalizing = true) (e : Expr) :
    b.normalized e = normalize e b.nextElement := by
  rw [normalized, if_pos hb]

theorem joinWhen_refused_iff (hb : b.normalizing = true) (k : JoinKind) {t : Expr} {c : Condition}
    (hc : ElementsApart b t c) : (b.joinWhen k t c).refusal ≠ none ↔ SelfReferential t c := by
  cases c with
  | none => simp [joinWhen, SelfReferential]
  | some e =>
    have hapart := hc e rfl
    rw [normalized_of_normalizing hb] at hapart
    have hrefusal : (b.joinWhen k t (some e)).refusal = selfReference? t (b.normalized e) := by
      simp [joinWhen_refusal, normalizedAll]
    rw [hrefusal, selfReference?_ne_none_iff, normalized_of_normalizing hb]
    constructor
    · rintro ⟨v, hv, hr⟩
      exact ⟨e, rfl, v, hv, (exists_replaced_root_iff (hapart v hv)).mp hr⟩
    · rintro ⟨e', he, v, hv, hp⟩
      obtain rfl := Option.some.inj he
      exact ⟨v, hv, (exists_replaced_root_iff (hapart v hv)).mpr hp⟩

theorem oneForEach_normalized (hb : b.normalizing = true) (e : Expr) :
    OneForEach (some e) (b.normalized e).replaced := by
  obtain ⟨rs, ht, hnodes, hn⟩ := normalize_eq e b.nextElement
  rw [normalized_of_normalizing hb, hn]
  refine ⟨fun x => by simp [hnodes], ht.nodes_nodup, ht.elements_nodup, fun hr => ?_⟩
  obtain ⟨p, n, k, hnode, -, hcoll⟩ := ht.collection_eq hr
  exact ⟨p, n, k, hnode, hcoll⟩

theorem joinWhen_accepted (hb : b.normalizing = true) {k : JoinKind} {t : Expr} {c : Condition}
    (h : (b.joinWhen k t c).refusal = none) :
    ∃ rs, OneForEach c rs ∧
      (b.joinWhen k t c).builder.select =
        let joins := b.select.joins ++ rs.map (·.join)
        { b.select with
          joins := joins ++ [⟨k, t, c.map fun e => (b.normalized e).condition, []⟩]
          current := some joins.length } := by
  have hselect := joinWhen_select h
  cases c with
  | none =>
    refine ⟨[], ⟨by simp [nodesOf], .nil, .nil, by simp⟩, ?_⟩
    simp [hselect, normalizedAll, Select.addSyntheticJoins, Select.addJoin, Expr.conjunction?]
  | some e =>
    refine ⟨(b.normalized e).replaced, oneForEach_normalized hb e, ?_⟩
    simp [hselect, normalizedAll, Select.addSyntheticJoins, Select.addJoin, Expr.conjunction?,
      Normalized.joins]

end Builder

/-- Joins with conditions are all or nothing, and it is just the self-referential conditions that are
refused. The proviso is that no element takes the name of the variable that the join declares. -/
theorem joinWhen_atomic {b : Builder} (hb : b.normalizing = true) (k : JoinKind) (t : Expr)
    (c : Condition) :
    (ElementsApart b t c → ((b.joinWhen k t c).refusal ≠ none ↔ SelfReferential t c)) ∧
      ((b.joinWhen k t c).refusal ≠ none → (b.joinWhen k t c).builder.select = b.select) ∧
      ((b.joinWhen k t c).refusal = none → ∃ rs, OneForEach c rs ∧
        (b.joinWhen k t c).builder.select =
          let joins := b.select.joins ++ rs.map (·.join)
          { b.select with
            joins := joins ++ [⟨k, t, c.map fun e => (b.normalized e).condition, []⟩]
            current := some joins.length }) := by
  refine ⟨Builder.joinWhen_refused_iff hb k, fun h => ?_, Builder.joinWhen_accepted hb⟩
  obtain ⟨refusal, hrefusal⟩ := Option.ne_none_iff_exists'.mp h
  exact Builder.joinWhen_refused hrefusal

/-- The kittens of a cat under a name of their own. -/
def kittens : Expr :=
  let cat := Path.root "cat" (.entity (.ofType "Cat"))
  .aliased (.path (cat.collection "kittens" (.entity (.ofType "Cat")))) (.source (.ofType "Cat") "kitten")

/-- A condition on the kittens of those kittens, and on their own kittens in turn. -/
def grandKittenNamed : Condition :=
  let kitten := Path.source (.ofType "Cat") "kitten"
  let grandKitten := (kitten.collection "kittens" (.entity (.ofType "Cat"))).anyElement
  let greatGrandKitten := (grandKitten.collection "kittens" (.entity (.ofType "Cat"))).anyElement
  some (.operation .eq [.path (greatGrandKitten.property "name" .text), .constant (.text "a")])

theorem joinWhen_atomic_grandKittenNamed :
    let b := (Builder.empty true).after [catSource]
    b.normalizing = true ∧ ElementsApart b kittens grandKittenNamed ∧
      SelfReferential kittens grandKittenNamed ∧
      (b.joinWhen .inner kittens grandKittenNamed).refusal ≠ none ∧
      (b.joinWhen .inner kittens grandKittenNamed).builder.select = b.select := by
  intro b
  have hapart : ElementsApart b kittens grandKittenNamed := by
    intro e he v hv
    obtain rfl := Option.some.inj he
    obtain rfl := Option.some.inj hv
    decide +kernel
  have hself : SelfReferential kittens grandKittenNamed :=
    ⟨_, rfl, _, rfl, _, List.mem_cons_self, rfl, rfl⟩
  obtain ⟨hiff, hkept, -⟩ := joinWhen_atomic (b := b) rfl .inner kittens grandKittenNamed
  have hrefused := (hiff hapart).mpr hself
  exact ⟨rfl, hapart, hself, hrefused, hkept hrefused⟩

end QueryText.Query
