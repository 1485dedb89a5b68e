import Mathlib.Data.List.Nodup
import QueryText.Proofs.AnyPath.Paths
import QueryText.Query.AnyPath

namespace QueryText.Query.AnyPath

def nodesOf (rs : List Replacement) : List Path :=
  rs.map (·.node)

def elementsOf (rs : List Replacement) : List Path :=
  rs.map (·.element)

/-- The path with the element of the table in the place of the last node along it. -/
def viaElements (rs : List Replacement) : Path → Path
  | .root n k => .root n k
  | .child p n r k =>
    if r = .anyElement then
      ((rs.find? (·.node == .child p n r k)).map (·.element)).getD (.child p n r k)
    else .child (viaElements rs p) n r k

inductive Table (first : Nat) : List Replacement → Prop where
  | nil : Table first []
  | snoc {rs : List Replacement} {p : Path} {n : String} {k : Kind} (h : Table first rs)
      (covered : p.anyNodes ⊆ nodesOf rs) (new : .child p n .anyElement k ∉ nodesOf rs) :
      Table first (rs ++ [⟨.child p n .anyElement k, viaElements rs p,
        .root (Replacements.elementName (viaElements rs p) (first + rs.length)) k⟩])

theorem find?_node {rs : List Replacement} {x : Path} (h : x ∈ nodesOf rs) :
    ∃ r ∈ rs, rs.find? (·.node == x) = some r ∧ r.node = x := by
  obtain ⟨r, hr, rfl⟩ := List.mem_map.mp h
  cases hf : rs.find? (·.node == r.node) with
  | none => simpa using List.find?_eq_none.mp hf r hr
  | some r' => exact ⟨r', List.mem_of_find?_eq_some hf, rfl, by simpa using List.find?_some hf⟩

theorem find?_node_eq_none {rs : List Replacement} {x : Path} (h : x ∉ nodesOf rs) :
    rs.find? (·.node == x) = none := by
  rw [List.find?_eq_none]
  intro r hr he
  exact h (List.mem_map.mpr ⟨r, hr, by simpa using he⟩)

theorem find?_element_eq_none {rs : List Replacement} {v : Path} (h : v ∉ elementsOf rs) :
    rs.find? (·.element == v) = none := by
  rw [List.find?_eq_none]
  intro r hr he
  exact h (List.mem_map.mpr ⟨r, hr, by simpa using he⟩)

theorem viaElements_append {rs : List Replacement} (rs' : List Replacement) {p : Path}
    (h : p.anyNodes ⊆ nodesOf rs) : viaElements (rs ++ rs') p = viaElements rs p := by
  induction p with
  | root n k => rfl
  | child p n r k ih =>
    by_cases hr : r = .anyElement
    · have hx : Path.child p n r k ∈ nodesOf rs := h (by simp [Path.anyNodes, hr])
      obtain ⟨r', -, hf, -⟩ := find?_node hx
      simp only [viaElements, if_pos hr, List.find?_append, hf, Option.some_or]
    · rw [Path.anyNodes_child hr] at h
      simp only [viaElements, if_neg hr, ih h]

theorem viaElements_of_grows {rs rs' : List Replacement} (hp : rs <+: rs') {p : Path}
    (h : p.anyNodes ⊆ nodesOf rs) : viaElements rs' p = viaElements rs p := by
  obtain ⟨t, rfl⟩ := hp
  exact viaElements_append t h

theorem viaElements_of_plain (rs : List Replacement) {p : Path} (h : p.throughAny = false) :
    viaElements rs p = p := by
  induction p with
  | root n k => rfl
  | child p n r k ih =>
    obtain ⟨hr, hp⟩ : r ≠ .anyElement ∧ p.throughAny = false := by
      simpa [Path.throughAny] using h
    simp only [viaElements, if_neg hr, ih hp]

namespace Replacements

theorem split_eq_of_notMem {c : Char} {xs ys ds es : List Char} (hd : c ∉ ds) (he : c ∉ es)
    (h : xs ++ c :: ds = ys ++ c :: es) : ds = es := by
  obtain ⟨as, -, h⟩ | ⟨as, -, h⟩ := List.append_eq_append_iff.mp h
  · cases as with
    | nil => exact (List.cons.inj h).2
    | cons a as =>
      obtain ⟨-, rfl⟩ := List.cons.inj h
      simp at hd
  · cases as with
    | nil => exact (List.cons.inj h).2.symm
    | cons a as =>
      obtain ⟨-, rfl⟩ := List.cons.inj h
      simp at he

theorem number_eq_of_elementName_eq {c d : Path} {i j : Nat} (h : elementName c i = elementName d j) :
    i = j := by
  have hl := congrArg String.toList h
  simp only [elementName, String.toList_append, String.toList_ofList, Nat.toString_eq_ofList_toDigits,
    List.append_assoc] at hl
  have hdigits := split_eq_of_notMem Nat.underscore_not_in_toDigits Nat.underscore_not_in_toDigits hl
  calc
    i = Nat.ofDigitChars 10 (Nat.toDigits 10 i) 0 := Nat.ofDigitChars_ten_toDigits.symm
    _ = Nat.ofDigitChars 10 (Nat.toDigits 10 j) 0 := by rw [hdigits]
    _ = j := Nat.ofDigitChars_ten_toDigits

end Replacements

namespace Table

variable {first : Nat} {rs : List Replacement}

theorem nodes_nodup (h : Table first rs) : (nodesOf rs).Nodup := by
  induction h with
  | nil => exact List.nodup_nil
  | snoc h covered new ih =>
    rw [nodesOf, List.map_append]
    exact List.nodup_append.mpr ⟨ih, List.nodup_singleton _, by simpa [nodesOf] using new⟩

theorem closed (h : Table first rs) {x : Path} (hx : x ∈ nodesOf rs) : x.anyNodes ⊆ nodesOf rs := by
  induction h with
  | nil => simp [nodesOf] at hx
  | @snoc rs p n k h covered new ih =>
    rw [nodesOf, List.map_append, List.mem_append] at hx
    obtain hx | hx := hx
    · exact List.Subset.trans (ih hx) (by simp [nodesOf])
    · obtain rfl : x = .child p n .anyElement k := by simpa using hx
      intro y hy
      rw [Path.anyNodes, if_pos rfl, List.mem_append, List.mem_singleton] at hy
      obtain hy | rfl := hy
      · simpa [nodesOf] using Or.inl (covered hy)
      · simp [nodesOf]

theorem take (h : Table first rs) (i : Nat) : Table first (rs.take i) := by
  induction h with
  | nil => simpa using Table.nil
  | @snoc rs p n k h covered new ih =>
    by_cases hi : i ≤ rs.length
    · rwa [List.take_append_of_le_length hi]
    · rw [List.take_of_length_le (by simp; omega)]
      exact h.snoc covered new

structure Row (first i : Nat) (rs : List Replacement) (r : Replacement) : Prop where
  node : ∃ p n k, r.node = .child p n .anyElement k ∧ p.anyNodes ⊆ nodesOf (rs.take i) ∧
    r.collection = viaElements rs p
  element : r.element = .root (Replacements.elementName r.collection (first + i)) r.node.kind

theorem row (h : Table first rs) {i : Nat} {r : Replacement} (hr : rs[i]? = some r) :
    Row first i rs r := by
  induction h with
  | nil => simp at hr
  | @snoc rs p n k h covered new ih =>
    by_cases hi : i < rs.length
    · rw [List.getElem?_append_left hi] at hr
      obtain ⟨⟨c, m, l, hnode, hc, hcoll⟩, helem⟩ := ih hr
      have hsub : nodesOf (rs.take i) ⊆ nodesOf rs := List.map_subset _ (List.take_subset i rs)
      refine ⟨⟨c, m, l, hnode, ?_, ?_⟩, helem⟩
      · rwa [List.take_append_of_le_length (Nat.le_of_lt hi)]
      · rw [hcoll, viaElements_append _ (List.Subset.trans hc hsub)]
    · rw [List.getElem?_append_right (Nat.le_of_not_lt hi), List.getElem?_singleton] at hr
      split at hr
      · obtain rfl := Option.some.inj hr
        obtain rfl : i = rs.length := by omega
        refine ⟨⟨p, n, k, rfl, ?_, (viaElements_append _ covered).symm⟩, rfl⟩
        rwa [List.take_left]
      · cases hr

theorem exists_row (h : Table first rs) {r : Replacement} (hr : r ∈ rs) :
    ∃ i, rs[i]? = some r ∧ Row first i rs r := by
  obtain ⟨i, hi⟩ := List.getElem?_of_mem hr
  exact ⟨i, hi, h.row hi⟩

theorem eq_of_element_eq (h : Table first rs) {i j : Nat} {r r' : Replacement} (hr : rs[i]? = some r)
    (hr' : rs[j]? = some r') (he : r.element = r'.element) : i = j := by
  rw [(h.row hr).element, (h.row hr').element, Path.root.injEq] at he
  have hn := Replacements.number_eq_of_elementName_eq he.1
  omega

theorem elements_nodup (h : Table first rs) : (elementsOf rs).Nodup := by
  refine List.Nodup.map_on (fun r hr r' hr' he => ?_) (List.Nodup.of_map _ h.nodes_nodup)
  obtain ⟨i, hi⟩ := List.getElem?_of_mem hr
  obtain ⟨j, hj⟩ := List.getElem?_of_mem hr'
  obtain rfl := h.eq_of_element_eq hi hj he
  rw [hi] at hj
  exact Option.some.inj hj

theorem find?_element (h : Table first rs) {r : Replacement} (hr : r ∈ rs) :
    rs.find? (·.element == r.element) = some r := by
  obtain ⟨i, hi⟩ := List.getElem?_of_mem hr
  cases hf : rs.find? (·.element == r.element) with
  | none => simpa using List.find?_eq_none.mp hf r hr
  | some r' =>
    have he : r'.element = r.element := by simpa using List.find?_some hf
    obtain ⟨j, hj⟩ := List.getElem?_of_mem (List.mem_of_find?_eq_some hf)
    obtain rfl := h.eq_of_element_eq hj hi he
    rw [hi] at hj
    exact hj.symm

theorem element_root (h : Table first rs) {r : Replacement} (hr : r ∈ rs) :
    ∃ n k, r.element = .root n k := by
  obtain ⟨i, -, hrow⟩ := h.exists_row hr
  exact ⟨_, _, hrow.element⟩

theorem viaElements_node (h : Table first rs) {r : Replacement} (hr : r ∈ rs) :
    viaElements rs r.node = r.element := by
  obtain ⟨i, hi, ⟨p, n, k, hnode, -⟩, -⟩ := h.exists_row hr
  obtain ⟨r', hr', hf, he⟩ := find?_node (List.mem_map_of_mem hr : r.node ∈ nodesOf rs)
  obtain rfl : r' = r := List.inj_on_of_nodup_map h.nodes_nodup hr' hr he
  rw [hnode, viaElements, if_pos rfl, ← hnode, hf]
  rfl

theorem collection_eq (h : Table first rs) {r : Replacement} (hr : r ∈ rs) :
    ∃ p n k, r.node = .child p n .anyElement k ∧ p.anyNodes ⊆ nodesOf rs ∧
      r.collection = viaElements rs p := by
  obtain ⟨i, -, ⟨p, n, k, hnode, hp, hcoll⟩, -⟩ := h.exists_row hr
  have hsub : nodesOf (rs.take i) ⊆ nodesOf rs := List.map_subset _ (List.take_subset i rs)
  exact ⟨p, n, k, hnode, List.Subset.trans hp hsub, hcoll⟩

/-- Written through its elements, a path whose nodes are all in the table goes through no node, and
starts from its own root or from an element. -/
theorem viaElements_covered (h : Table first rs) {p : Path} (hp : p.anyNodes ⊆ nodesOf rs) :
    (viaElements rs p).throughAny = false ∧
      ((viaElements rs p).rootVariable = p.rootVariable ∨
        (viaElements rs p).rootVariable ∈ elementsOf rs) := by
  induction p with
  | root n k => exact ⟨rfl, .inl rfl⟩
  | child p n r k ih =>
    by_cases hr : r = .anyElement
    · have hx : Path.child p n r k ∈ nodesOf rs := hp (by simp [Path.anyNodes, hr])
      obtain ⟨r', hr', hf, -⟩ := find?_node hx
      obtain ⟨m, l, he⟩ := h.element_root hr'
      have hmem : r'.element ∈ elementsOf rs := List.mem_map_of_mem hr'
      rw [he] at hmem
      simp only [viaElements, if_pos hr, hf, Option.map_some, Option.getD_some, he]
      exact ⟨rfl, .inr hmem⟩
    · rw [Path.anyNodes_child hr] at hp
      obtain ⟨hplain, hroot⟩ := ih hp
      simp only [viaElements, if_neg hr]
      exact ⟨by simpa [Path.throughAny, hr] using hplain, hroot⟩

theorem collection_root (h : Table first rs) {i : Nat} {r : Replacement} (hr : rs[i]? = some r) :
    r.collection.rootVariable = r.node.rootVariable ∨
      ∃ j < i, ∃ r', rs[j]? = some r' ∧ r'.element = r.collection.rootVariable := by
  obtain ⟨p, n, k, hnode, hp, hcoll⟩ := (h.row hr).node
  have hgrows : rs.take i <+: rs := List.take_prefix i rs
  rw [viaElements_of_grows hgrows hp] at hcoll
  rw [hcoll, hnode]
  obtain ⟨-, hroot | hroot⟩ := (h.take i).viaElements_covered hp
  · exact .inl hroot
  · obtain ⟨r', hr', he⟩ := List.mem_map.mp hroot
    obtain ⟨j, hj⟩ := List.getElem?_of_mem hr'
    rw [List.getElem?_take, Option.ite_none_right_eq_some] at hj
    exact .inr ⟨j, hj.1, r', hj.2, he⟩

theorem collection_plain (h : Table first rs) {r : Replacement} (hr : r ∈ rs) :
    r.collection.throughAny = false := by
  obtain ⟨p, n, k, -, hp, hcoll⟩ := h.collection_eq hr
  rw [hcoll]
  exact (h.viaElements_covered hp).1

end Table

end QueryText.Query.AnyPath
