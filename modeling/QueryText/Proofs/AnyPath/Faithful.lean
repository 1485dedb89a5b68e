import QueryText.Proofs.AnyPath.Filling

namespace QueryText.Query.AnyPath

/-- The path with the node back in the place of the element that it starts from. -/
def restorePath (rs : List Replacement) : Path → Path
  | .root n k => ((rs.find? (·.element == .root n k)).map (·.node)).getD (.root n k)
  | .child p n r k => .child (restorePath rs p) n r k

def restore (rs : List Replacement) (e : Expr) : Expr :=
  e.mapPaths (restorePath rs)

/-- The expression starts no path from an element of the table. -/
def Fresh (rs : List Replacement) (e : Expr) : Prop :=
  ∀ r ∈ rs, r.element ∉ e.roots

instance (rs : List Replacement) (e : Expr) : Decidable (Fresh rs e) :=
  inferInstanceAs (Decidable (∀ r ∈ rs, r.element ∉ e.roots))

/-- How a normalization stands to the condition that it was made from. -/
structure Faithful (e : Expr) (n : Normalized) : Prop where
  /-- neither the condition nor the joins go through any element of a collection -/
  plain : ∀ p ∈ n.condition.paths, p.throughAny = false
  plain_targets : ∀ j ∈ n.joins, ∀ p ∈ j.target.paths, p.throughAny = false
  /-- each node of the condition has one join, which declares a variable of its own -/
  joins : n.joins = n.replaced.map fun r => .of .inner (.aliased (.path r.collection) r.element)
  nodes : ∀ x, x ∈ nodesOf n.replaced ↔ x ∈ e.anyNodes
  nodes_nodup : (nodesOf n.replaced).Nodup
  elements_nodup : (elementsOf n.replaced).Nodup
  /-- the collection of a join starts from the condition's own variables or from an earlier join's -/
  inScope : ∀ (i : Nat) (r : Replacement), n.replaced[i]? = some r →
    r.collection.rootVariable ∈ e.roots ∨
      ∃ j < i, ∃ r', n.replaced[j]? = some r' ∧ r'.element = r.collection.rootVariable
  /-- with the nodes back in place, the condition and the collections are what they were -/
  restored : Fresh n.replaced e → restore n.replaced n.condition = e
  collections : Fresh n.replaced e →
    ∀ r ∈ n.replaced, r.node.parent? = some (restorePath n.replaced r.collection)
  /-- there is nothing left to normalize -/
  settled : ∀ next, normalize n.condition next = ⟨n.condition, [], next⟩

namespace Table

variable {first : Nat} {rs : List Replacement}

theorem restorePath_element (h : Table first rs) {r : Replacement} (hr : r ∈ rs) :
    restorePath rs r.element = r.node := by
  have hback := h.find?_element hr
  obtain ⟨m, l, he⟩ := h.element_root hr
  rw [he] at hback ⊢
  rw [restorePath, hback]
  rfl

theorem restorePath_viaElements (h : Table first rs) {p : Path} (hp : p.anyNodes ⊆ nodesOf rs)
    (hfresh : p.rootVariable ∉ elementsOf rs) : restorePath rs (viaElements rs p) = p := by
  induction p with
  | root n k =>
    have hnone : rs.find? (·.element == .root n k) = none := find?_element_eq_none hfresh
    rw [viaElements, restorePath, hnone]
    rfl
  | child p n r k ih =>
    by_cases hr : r = .anyElement
    · have hx : Path.child p n r k ∈ nodesOf rs := hp (by simp [Path.anyNodes, hr])
      obtain ⟨r', hr', hf, hnode⟩ := find?_node hx
      simp only [viaElements, if_pos hr, hf, Option.map_some, Option.getD_some]
      rw [h.restorePath_element hr', hnode]
    · rw [Path.anyNodes_child hr] at hp
      simp only [viaElements, if_neg hr, restorePath, ih hp hfresh]

end Table

theorem normalize_of_plain {e : Expr} (h : ∀ p ∈ e.paths, p.throughAny = false) (next : Nat) :
    normalize e next = ⟨e, [], next⟩ := by
  obtain ⟨rs, -, hnodes, hn⟩ := normalize_eq e next
  have hnil : rs = [] := by
    cases rs with
    | nil => rfl
    | cons r rs =>
      have hx : r.node ∈ e.anyNodes := (hnodes r.node).mp (by simp [nodesOf])
      obtain ⟨p, hp, hx⟩ := List.mem_flatMap.mp hx
      simp [(Path.anyNodes_eq_nil_iff p).mpr (h p hp)] at hx
  rw [hn, hnil, Expr.mapPaths_eq_self fun p hp => viaElements_of_plain [] (h p hp)]
  rfl

theorem normalize_faithful (e : Expr) (next : Nat) : Faithful e (normalize e next) := by
  obtain ⟨rs, ht, hnodes, hn⟩ := normalize_eq e next
  rw [hn]
  have hcovered : ∀ p ∈ e.paths, p.anyNodes ⊆ nodesOf rs :=
    fun p hp x hx => (hnodes x).mpr (Expr.anyNodes_subset hp hx)
  have hplain : ∀ p ∈ (e.mapPaths (viaElements rs)).paths, p.throughAny = false := by
    intro p hp
    rw [Expr.paths_mapPaths] at hp
    obtain ⟨q, hq, rfl⟩ := List.mem_map.mp hp
    exact (ht.viaElements_covered (hcovered q hq)).1
  have hroots : ∀ r ∈ rs, r.node.rootVariable ∈ e.roots :=
    fun r hr => Expr.rootVariable_mem_roots ((hnodes _).mp (List.mem_map_of_mem hr))
  have hfresh {v : Path} (h : Fresh rs e) (hv : v ∈ e.roots) : v ∉ elementsOf rs := by
    intro hve
    obtain ⟨r, hr, rfl⟩ := List.mem_map.mp hve
    exact h r hr hv
  exact
    { plain := hplain
      plain_targets := by
        intro j hj p hp
        obtain ⟨r, hr, rfl⟩ := List.mem_map.mp hj
        obtain ⟨n, k, he⟩ := ht.element_root hr
        simp only [Replacement.join, Join.of, Expr.aliased, Expr.paths, Expr.pathsOfAll,
          List.cons_append, List.nil_append, List.mem_cons, List.not_mem_nil, or_false] at hp
        obtain rfl | rfl := hp
        · exact ht.collection_plain hr
        · rw [he]
          rfl
      joins := rfl
      nodes := hnodes
      nodes_nodup := ht.nodes_nodup
      elements_nodup := ht.elements_nodup
      inScope := by
        intro i r hr
        obtain hroot | hearlier := ht.collection_root hr
        · exact .inl (hroot ▸ hroots r (List.mem_of_getElem? hr))
        · exact .inr hearlier
      restored := by
        intro h
        rw [restore, Expr.mapPaths_mapPaths]
        exact Expr.mapPaths_eq_self fun p hp =>
          ht.restorePath_viaElements (hcovered p hp) (hfresh h (List.mem_map_of_mem hp))
      collections := by
        intro h r hr
        obtain ⟨p, n, k, hnode, hp, hcoll⟩ := ht.collection_eq hr
        have hroot := hfresh h (hroots r hr)
        rw [hnode] at hroot ⊢
        rw [hcoll, ht.restorePath_viaElements hp hroot]
        rfl
      settled := normalize_of_plain hplain }

/-- The cats one of whose kittens has a kitten of that name. -/
def grandKittens : Expr :=
  let kitten := Kind.entity (.ofType "Cat")
  let any := (Path.root "cat" kitten).collection "kittens" kitten |>.anyElement
  let grandKitten := (any.collection "kittens" kitten).anyElement
  .operation .eq [.path (grandKitten.property "name" .text), .constant (.text "x")]

theorem grandKittens_restored :
    Fresh (normalize grandKittens 0).replaced grandKittens ∧
      (normalize grandKittens 0).replaced.length = 2 ∧
      restore (normalize grandKittens 0).replaced (normalize grandKittens 0).condition =
        grandKittens := by
  have h : Fresh (normalize grandKittens 0).replaced grandKittens := by
    decide +kernel
  exact ⟨h, by decide +kernel, (normalize_faithful grandKittens 0).restored h⟩

end QueryText.Query.AnyPath
