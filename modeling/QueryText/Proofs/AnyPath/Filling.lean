import QueryText.Proofs.AnyPath.Table

namespace QueryText.Query.AnyPath

/-- What has been replaced is a table, and the next element gets the next number. -/
structure Replacements.Sound (first : Nat) (s : Replacements) : Prop where
  table : Table first s.made
  next : s.next = first + s.made.length

/-- From `s` to `s'` the table has grown by the nodes `xs` as far as they were missing. -/
structure Fills (first : Nat) (xs : List Path) (s s' : Replacements) : Prop where
  sound : s'.Sound first
  grows : s.made <+: s'.made
  nodes : ∀ x, x ∈ nodesOf s'.made ↔ x ∈ nodesOf s.made ∨ x ∈ xs

variable {first : Nat} {s s' s'' : Replacements} {xs ys : List Path}

namespace Fills

theorem none (h : s.Sound first) (hxs : xs ⊆ nodesOf s.made) : Fills first xs s s :=
  ⟨h, List.prefix_refl _, fun _ => ⟨.inl, fun hx => hx.elim id (hxs ·)⟩⟩

theorem append (h : Fills first xs s s') (h' : Fills first ys s' s'') : Fills first (xs ++ ys) s s'' :=
  ⟨h'.sound, h.grows.trans h'.grows, fun x => by rw [h'.nodes, h.nodes, List.mem_append, or_assoc]⟩

theorem covers (h : Fills first xs s s') : xs ⊆ nodesOf s'.made :=
  fun x hx => (h.nodes x).mpr (.inr hx)

end Fills

theorem element?_cases (s : Replacements) (x : Path) :
    (x ∈ nodesOf s.made ∧ ∃ r ∈ s.made, s.element? x = some r.element ∧
        s.made.find? (·.node == x) = some r) ∨
      (x ∉ nodesOf s.made ∧ s.element? x = none) := by
  by_cases hx : x ∈ nodesOf s.made
  · obtain ⟨r, hr, hf, -⟩ := find?_node hx
    exact .inl ⟨hx, r, hr, by rw [Replacements.element?, hf]; rfl, hf⟩
  · exact .inr ⟨hx, by rw [Replacements.element?, find?_node_eq_none hx]; rfl⟩

theorem make_fills {p : Path} {n : String} {k : Kind} (h : Fills first p.anyNodes s s')
    (hnew : .child p n .anyElement k ∉ nodesOf s.made) :
    Fills first (Path.child p n .anyElement k).anyNodes s
        (s'.make (.child p n .anyElement k) (viaElements s'.made p)).2 ∧
      (s'.make (.child p n .anyElement k) (viaElements s'.made p)).1 =
        viaElements (s'.make (.child p n .anyElement k) (viaElements s'.made p)).2.made
          (.child p n .anyElement k) := by
  have hnew' : .child p n .anyElement k ∉ nodesOf s'.made := by
    rw [h.nodes]
    exact fun hx => hx.elim hnew (Path.child_notMem_anyNodes p n _ k)
  have hnext := h.sound.next
  refine ⟨⟨⟨?_, ?_⟩, ?_, fun x => ?_⟩, ?_⟩
  · have ht := h.sound.table.snoc h.covers hnew'
    simpa only [Replacements.make, hnext, Path.kind] using ht
  · simp only [Replacements.make, List.length_append, List.length_singleton, hnext]
    omega
  · exact h.grows.trans (List.prefix_append _ _)
  · simp only [Replacements.make, nodesOf, List.map_append, List.mem_append, List.map_cons,
      List.map_nil, List.mem_singleton, Path.anyNodes, ↓reduceIte]
    rw [← nodesOf, h.nodes, or_assoc]
    rfl
  · simp [Replacements.make, viaElements, List.find?_append, find?_node_eq_none hnew']

theorem replacePath_fills (p : Path) (h : s.Sound first) :
    Fills first p.anyNodes s (replacePath p s).2 ∧
      (replacePath p s).1 = viaElements (replacePath p s).2.made p := by
  induction p generalizing s with
  | root n k => exact ⟨.none h (List.nil_subset _), rfl⟩
  | child p n r k ih =>
    obtain ⟨hp, hq⟩ := ih h
    by_cases hr : r = .anyElement
    · subst hr
      obtain ⟨hx, r, hr, he, hf⟩ | ⟨hx, he⟩ := element?_cases s (.child p n .anyElement k)
      · simp only [replacePath, ↓reduceIte, he]
        exact ⟨.none h (h.table.closed hx), by simp [viaElements, hf]⟩
      · simp only [replacePath, ↓reduceIte, he, hq]
        exact make_fills hp hx
    · simp only [replacePath, if_neg hr, Path.anyNodes_child hr, viaElements]
      exact ⟨hp, by rw [hq]⟩

mutual

/-- An expression leaves a table of its nodes behind, and comes out written through the elements of
that table. -/
theorem replace_fills : (e : Expr) → (s : Replacements) → s.Sound first →
    Fills first e.anyNodes s (replace e s).2 ∧
      (replace e s).1 = e.mapPaths (viaElements (replace e s).2.made)
  | .path p, s, h => by
    obtain ⟨hp, hq⟩ := replacePath_fills p h
    refine ⟨?_, congrArg Expr.path hq⟩
    rw [Expr.anyNodes, Expr.paths, List.flatMap_singleton]
    exact hp
  | .operation op args, s, h =>
    let ⟨ha, hq⟩ := replaceAll_fills args s h
    ⟨ha, congrArg (Expr.operation op) hq⟩
  | .custom f args, s, h =>
    let ⟨ha, hq⟩ := replaceAll_fills args s h
    ⟨ha, congrArg (Expr.custom f) hq⟩
  | .constant _, _, h | .param _, _, h | .subQuery _, _, h => ⟨.none h (List.nil_subset _), rfl⟩

theorem replaceAll_fills : (es : List Expr) → (s : Replacements) → s.Sound first →
    Fills first ((Expr.pathsOfAll es).flatMap (·.anyNodes)) s (replaceAll es s).2 ∧
      (replaceAll es s).1 = Expr.mapPathsOfAll (viaElements (replaceAll es s).2.made) es
  | [], s, h => ⟨.none h (List.nil_subset _), rfl⟩
  | e :: es, s, h => by
    obtain ⟨he, hq⟩ := replace_fills e s h
    obtain ⟨hes, hqs⟩ := replaceAll_fills es _ he.sound
    simp only [replaceAll, Expr.mapPathsOfAll, Expr.pathsOfAll, List.flatMap_append]
    refine ⟨he.append hes, ?_⟩
    rw [hq, hqs]
    congr 1
    refine Expr.mapPaths_congr e fun p hp => ?_
    -- the first expression came out by the table as it was then; all of its nodes were in it
    have hcovered : p.anyNodes ⊆ nodesOf (replace e s).2.made :=
      List.Subset.trans (Expr.anyNodes_subset hp) he.covers
    exact (viaElements_of_grows hes.grows hcovered).symm

end

theorem normalize_eq (e : Expr) (next : Nat) :
    ∃ rs, Table next rs ∧ (∀ x, x ∈ nodesOf rs ↔ x ∈ e.anyNodes) ∧
      normalize e next = ⟨e.mapPaths (viaElements rs), rs, next + rs.length⟩ := by
  have hs : Replacements.Sound next ⟨next, []⟩ := ⟨.nil, rfl⟩
  obtain ⟨h, hq⟩ := replace_fills e _ hs
  refine ⟨_, h.sound.table, fun x => ?_, ?_⟩
  · simpa [nodesOf] using h.nodes x
  · simp only [normalize, hq, h.sound.next]

end QueryText.Query.AnyPath
