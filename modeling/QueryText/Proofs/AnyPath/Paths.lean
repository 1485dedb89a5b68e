import QueryText.Expr.Basic

namespace QueryText

namespace Path

/-- The nodes `collection.any` along the path, the outermost collection first. -/
def anyNodes : Path → List Path
  | root _ _ => []
  | child p n r k => if r = .anyElement then p.anyNodes ++ [child p n r k] else p.anyNodes

theorem anyNodes_eq_nil_iff (p : Path) : p.anyNodes = [] ↔ p.throughAny = false := by
  induction p with
  | root n k => simp [anyNodes, throughAny]
  | child p n r k ih =>
    by_cases hr : r = .anyElement
    · simp [anyNodes, throughAny, hr]
    · simp [anyNodes, throughAny, hr, ih]

theorem anyNodes_subset_child (p : Path) (n : String) (r : Role) (k : Kind) :
    p.anyNodes ⊆ (child p n r k).anyNodes := by
  intro x hx
  by_cases hr : r = .anyElement <;> simp [anyNodes, hr, hx]

theorem anyNodes_child {p : Path} {n : String} {r : Role} {k : Kind} (hr : r ≠ .anyElement) :
    (child p n r k).anyNodes = p.anyNodes := by
  rw [anyNodes, if_neg hr]

/-- Every node takes any element of the collection in front of it, and the nodes along it are all
among those of the path. -/
theorem mem_anyNodes {x p : Path} (h : x ∈ p.anyNodes) :
    x.depth ≤ p.depth ∧ x.rootVariable = p.rootVariable ∧ x.anyNodes ⊆ p.anyNodes ∧
      ∃ c n k, x = child c n .anyElement k ∧ c.anyNodes ⊆ p.anyNodes := by
  induction p with
  | root n k => simp [anyNodes] at h
  | child p n r k ih =>
    have hsub := anyNodes_subset_child p n r k
    by_cases hr : r = .anyElement
    · rw [anyNodes, if_pos hr, List.mem_append, List.mem_singleton] at h
      obtain h | rfl := h
      · obtain ⟨hd, hroot, hx, c, m, l, rfl, hc⟩ := ih h
        exact ⟨Nat.le_succ_of_le hd, hroot, List.Subset.trans hx hsub, c, m, l, rfl,
          List.Subset.trans hc hsub⟩
      · exact ⟨Nat.le_refl _, rfl, List.Subset.refl _, p, n, k, by rw [hr], hsub⟩
    · rw [anyNodes_child hr] at h
      obtain ⟨hd, hroot, hx, c, m, l, rfl, hc⟩ := ih h
      exact ⟨Nat.le_succ_of_le hd, hroot, List.Subset.trans hx hsub, c, m, l, rfl,
        List.Subset.trans hc hsub⟩

theorem exists_outermost {p : Path} (h : p.throughAny = true) :
    ∃ c n k, child c n .anyElement k ∈ p.anyNodes ∧ c.throughAny = false := by
  induction p with
  | root n k => cases h
  | child p n r k ih =>
    by_cases hp : p.throughAny = true
    · obtain ⟨c, m, l, hmem, hc⟩ := ih hp
      exact ⟨c, m, l, anyNodes_subset_child p n r k hmem, hc⟩
    · have hplain : p.throughAny = false := by simpa using hp
      have hr : r = .anyElement := by simpa [throughAny, hplain] using h
      exact ⟨p, n, k, by simp [anyNodes, hr], hplain⟩

theorem child_notMem_anyNodes (p : Path) (n : String) (r : Role) (k : Kind) :
    child p n r k ∉ p.anyNodes := by
  intro h
  have hd := (mem_anyNodes h).1
  simp only [depth] at hd
  omega

theorem exists_rootVariable (p : Path) : ∃ n k, p.rootVariable = root n k := by
  induction p with
  | root n k => exact ⟨n, k, rfl⟩
  | child p n r k ih => exact ih

end Path

namespace Expr

mutual

/-- The paths of the expression from left to right, those of its sub-queries aside. -/
def paths : Expr → List Path
  | path p => [p]
  | operation _ args => pathsOfAll args
  | custom _ args => pathsOfAll args
  | constant _ => []
  | param _ => []
  | subQuery _ => []

def pathsOfAll : List Expr → List Path
  | [] => []
  | e :: es => e.paths ++ pathsOfAll es

end

mutual

/-- The expression with its paths changed, those of its sub-queries aside. -/
def mapPaths (f : Path → Path) : Expr → Expr
  | path p => path (f p)
  | operation op args => operation op (mapPathsOfAll f args)
  | custom g args => custom g (mapPathsOfAll f args)
  | constant v => constant v
  | param p => param p
  | subQuery q => subQuery q

def mapPathsOfAll (f : Path → Path) : List Expr → List Expr
  | [] => []
  | e :: es => e.mapPaths f :: mapPathsOfAll f es

end

mutual

/-- The sub-queries of the expression, those inside of other sub-queries aside. -/
def subQueries : Expr → List (Select Expr)
  | subQuery q => [q]
  | operation _ args => subQueriesOfAll args
  | custom _ args => subQueriesOfAll args
  | path _ => []
  | constant _ => []
  | param _ => []

def subQueriesOfAll : List Expr → List (Select Expr)
  | [] => []
  | e :: es => e.subQueries ++ subQueriesOfAll es

end

def roots (e : Expr) : List Path :=
  e.paths.map (·.rootVariable)

def anyNodes (e : Expr) : List Path :=
  e.paths.flatMap (·.anyNodes)

theorem anyNodes_subset {e : Expr} {p : Path} (h : p ∈ e.paths) : p.anyNodes ⊆ e.anyNodes :=
  fun _ hx => List.mem_flatMap.mpr ⟨p, h, hx⟩

theorem rootVariable_mem_roots {e : Expr} {x : Path} (h : x ∈ e.anyNodes) :
    x.rootVariable ∈ e.roots := by
  obtain ⟨p, hp, hx⟩ := List.mem_flatMap.mp h
  exact List.mem_map.mpr ⟨p, hp, (Path.mem_anyNodes hx).2.1.symm⟩

variable {f g : Path → Path}

mutual

theorem paths_mapPaths : (e : Expr) → (e.mapPaths f).paths = e.paths.map f
  | path _ | constant _ | param _ | subQuery _ => rfl
  | operation _ args | custom _ args => pathsOfAll_mapPaths args

theorem pathsOfAll_mapPaths :
    (es : List Expr) → pathsOfAll (mapPathsOfAll f es) = (pathsOfAll es).map f
  | [] => rfl
  | e :: es => by
    rw [mapPathsOfAll, pathsOfAll, paths_mapPaths e, pathsOfAll_mapPaths es, pathsOfAll,
      List.map_append]

end

mutual

theorem mapPaths_congr : (e : Expr) → (∀ p ∈ e.paths, f p = g p) → e.mapPaths f = e.mapPaths g
  | path p, h => congrArg path (h p (by simp [paths]))
  | constant _, _ | param _, _ | subQuery _, _ => rfl
  | operation op args, h => congrArg (operation op) (mapPathsOfAll_congr args h)
  | custom c args, h => congrArg (custom c) (mapPathsOfAll_congr args h)

theorem mapPathsOfAll_congr :
    (es : List Expr) → (∀ p ∈ pathsOfAll es, f p = g p) → mapPathsOfAll f es = mapPathsOfAll g es
  | [], _ => rfl
  | e :: es, h => by
    have he : ∀ p ∈ e.paths, f p = g p := fun p hp => h p (List.mem_append_left _ hp)
    have hes : ∀ p ∈ pathsOfAll es, f p = g p := fun p hp => h p (List.mem_append_right _ hp)
    rw [mapPathsOfAll, mapPathsOfAll, mapPaths_congr e he, mapPathsOfAll_congr es hes]

end

mutual

theorem mapPaths_mapPaths : (e : Expr) → (e.mapPaths f).mapPaths g = e.mapPaths (g ∘ f)
  | path _ | constant _ | param _ | subQuery _ => rfl
  | operation op args => congrArg (operation op) (mapPathsOfAll_mapPaths args)
  | custom c args => congrArg (custom c) (mapPathsOfAll_mapPaths args)

theorem mapPathsOfAll_mapPaths :
    (es : List Expr) → mapPathsOfAll g (mapPathsOfAll f es) = mapPathsOfAll (g ∘ f) es
  | [] => rfl
  | e :: es => by
    rw [mapPathsOfAll, mapPathsOfAll, mapPathsOfAll, mapPaths_mapPaths e, mapPathsOfAll_mapPaths es]

end

mutual

theorem mapPaths_id : (e : Expr) → e.mapPaths id = e
  | path _ | constant _ | param _ | subQuery _ => rfl
  | operation op args => congrArg (operation op) (mapPathsOfAll_id args)
  | custom c args => congrArg (custom c) (mapPathsOfAll_id args)

theorem mapPathsOfAll_id : (es : List Expr) → mapPathsOfAll id es = es
  | [] => rfl
  | e :: es => by rw [mapPathsOfAll, mapPaths_id e, mapPathsOfAll_id es]

end

theorem mapPaths_eq_self {e : Expr} (h : ∀ p ∈ e.paths, f p = p) : e.mapPaths f = e :=
  (mapPaths_congr e h).trans (mapPaths_id e)

end Expr

end QueryText
