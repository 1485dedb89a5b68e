import Mathlib.Data.Set.Defs
import QueryText.Proofs.AnyPath.Paths

namespace QueryText

/-- A model of the data. Only the connectives are fixed; everything else may be worth anything, and a
sub-query is worth what it makes of the variables around it. -/
structure Model (α : Type) where
  property : α → String → Kind → α
  contents : α → Set α
  constant : Value → α
  param : Param → α
  operation : Operator → List α → α
  custom : Fragment → List α → α
  subQuery : Select Expr → (String → Kind → α) → α
  IsTrue : α → Prop
  isTrue_and (a b : α) : IsTrue (operation .and [a, b]) ↔ IsTrue a ∧ IsTrue b
  isTrue_or (a b : α) : IsTrue (operation .or [a, b]) ↔ IsTrue a ∨ IsTrue b
  isTrue_not (a : α) : IsTrue (operation .not [a]) ↔ ¬ IsTrue a

/-- What the variables and the nodes `collection.any` stand for. -/
abbrev Assignment (α : Type) := Path → α

def NodeSet (xs : List Path) : Prop :=
  ∀ x ∈ xs, ∃ c n k, x = .child c n .anyElement k ∧ c.anyNodes ⊆ xs

theorem NodeSet.root_notMem {xs : List Path} (h : NodeSet xs) (n : String) (k : Kind) :
    .root n k ∉ xs := by
  intro hx
  obtain ⟨c, m, l, hc, -⟩ := h _ hx
  cases hc

theorem Expr.nodeSet_anyNodes (e : Expr) : NodeSet e.anyNodes := by
  intro x hx
  obtain ⟨p, hp, hx⟩ := List.mem_flatMap.mp hx
  obtain ⟨-, -, -, c, n, k, hc, hsub⟩ := Path.mem_anyNodes hx
  exact ⟨c, n, k, hc, List.Subset.trans hsub (Expr.anyNodes_subset hp)⟩

theorem Expr.nodeSet_flatMap_anyNodes (es : List Expr) : NodeSet (es.flatMap (·.anyNodes)) := by
  intro x hx
  obtain ⟨e, he, hx⟩ := List.mem_flatMap.mp hx
  obtain ⟨c, n, k, hc, hsub⟩ := e.nodeSet_anyNodes x hx
  exact ⟨c, n, k, hc, fun y hy => List.mem_flatMap.mpr ⟨e, he, hsub hy⟩⟩

namespace Model

variable {α : Type} (M : Model α) {ρ σ τ χ ψ : Assignment α} {xs ys : List Path}

def path (σ : Assignment α) : Path → α
  | .root n k => σ (.root n k)
  | .child p n r k => if r = .anyElement then σ (.child p n r k) else M.property (path σ p) n k

mutual

def eval (σ : Assignment α) : Expr → α
  | .path p => M.path σ p
  | .operation op args => M.operation op (evalAll σ args)
  | .custom f args => M.custom f (evalAll σ args)
  | .constant v => M.constant v
  | .param p => M.param p
  | .subQuery q => M.subQuery q fun n k => σ (.root n k)

def evalAll (σ : Assignment α) : List Expr → List α
  | [] => []
  | e :: es => eval σ e :: evalAll σ es

end

def Holds (σ : Assignment α) (e : Expr) : Prop :=
  M.IsTrue (M.eval σ e)

variable {M}

theorem path_congr {p : Path} (hroot : σ p.rootVariable = τ p.rootVariable)
    (hnodes : ∀ x ∈ p.anyNodes, σ x = τ x) : M.path σ p = M.path τ p := by
  induction p with
  | root n k => exact hroot
  | child p n r k ih =>
    by_cases hr : r = .anyElement
    · simp only [path, if_pos hr]
      exact hnodes _ (by simp [Path.anyNodes, hr])
    · rw [Path.anyNodes_child hr] at hnodes
      simp only [path, if_neg hr, ih hroot hnodes]

mutual

theorem eval_mapPaths {f : Path → Path} : (e : Expr) →
    (∀ p ∈ e.paths, M.path σ (f p) = M.path τ p) →
    (∀ q ∈ e.subQueries,
      (M.subQuery q fun n k => σ (.root n k)) = M.subQuery q fun n k => τ (.root n k)) →
    M.eval σ (e.mapPaths f) = M.eval τ e
  | .path p, hp, _ => hp p (by simp [Expr.paths])
  | .operation op args, hp, hq => congrArg (M.operation op) (evalAll_mapPaths args hp hq)
  | .custom g args, hp, hq => congrArg (M.custom g) (evalAll_mapPaths args hp hq)
  | .constant _, _, _ | .param _, _, _ => rfl
  | .subQuery q, _, hq => hq q (by simp [Expr.subQueries])

theorem evalAll_mapPaths {f : Path → Path} : (es : List Expr) →
    (∀ p ∈ Expr.pathsOfAll es, M.path σ (f p) = M.path τ p) →
    (∀ q ∈ Expr.subQueriesOfAll es,
      (M.subQuery q fun n k => σ (.root n k)) = M.subQuery q fun n k => τ (.root n k)) →
    M.evalAll σ (Expr.mapPathsOfAll f es) = M.evalAll τ es
  | [], _, _ => rfl
  | e :: es, hp, hq => by
    have he := eval_mapPaths e (fun p h => hp p (List.mem_append_left _ h))
      fun q h => hq q (List.mem_append_left _ h)
    have hes := evalAll_mapPaths es (fun p h => hp p (List.mem_append_right _ h))
      fun q h => hq q (List.mem_append_right _ h)
    rw [Expr.mapPathsOfAll, evalAll, evalAll, he, hes]

end

theorem holds_congr {e : Expr} (hroots : ∀ n k, σ (.root n k) = τ (.root n k))
    (hnodes : ∀ x ∈ e.anyNodes, σ x = τ x) : M.Holds σ e ↔ M.Holds τ e := by
  have hpaths : ∀ p ∈ e.paths, M.path σ p = M.path τ p := by
    intro p hp
    obtain ⟨n, k, hroot⟩ := p.exists_rootVariable
    exact path_congr (hroot ▸ hroots n k) fun x hx => hnodes x (Expr.anyNodes_subset hp hx)
  have heval := eval_mapPaths e (f := id) hpaths fun q _ => by
    congr 1
    funext n k
    exact hroots n k
  rw [Expr.mapPaths_id] at heval
  rw [Holds, Holds, heval]

variable (M)

/-- `χ` is `ρ` with an element chosen for each of the nodes. -/
structure Chooses (ρ χ : Assignment α) (xs : List Path) : Prop where
  same : ∀ v, v ∉ xs → χ v = ρ v
  element : ∀ c n k, .child c n .anyElement k ∈ xs →
    χ (.child c n .anyElement k) ∈ M.contents (M.path χ c)

variable {M}

namespace Chooses

theorem root (h : M.Chooses ρ χ xs) (hx : NodeSet xs) (n : String) (k : Kind) :
    χ (.root n k) = ρ (.root n k) :=
  h.same _ (hx.root_notMem n k)

theorem empty (ρ : Assignment α) : M.Chooses ρ ρ [] :=
  ⟨fun _ _ => rfl, fun _ _ _ h => absurd h List.not_mem_nil⟩

theorem of_agree (hx : NodeSet xs) (hψ : ∀ c n k, .child c n .anyElement k ∈ xs →
      ψ (.child c n .anyElement k) ∈ M.contents (M.path ψ c))
    (hroots : ∀ n k, χ (.root n k) = ψ (.root n k)) (hnodes : ∀ x ∈ xs, χ x = ψ x)
    {c : Path} {n : String} {k : Kind} (h : .child c n .anyElement k ∈ xs) :
    χ (.child c n .anyElement k) ∈ M.contents (M.path χ c) := by
  obtain ⟨c', n', k', hc, hsub⟩ := hx _ h
  cases hc
  obtain ⟨m, l, hroot⟩ := c.exists_rootVariable
  have hpath : M.path χ c = M.path ψ c :=
    path_congr (hroot ▸ hroots m l) fun x hx => hnodes x (hsub hx)
  rw [hpath, hnodes _ h]
  exact hψ c n k h

theorem restrict (h : M.Chooses ρ χ ys) (hx : NodeSet xs) (hy : NodeSet ys) (hsub : xs ⊆ ys) :
    M.Chooses ρ (fun v => if v ∈ xs then χ v else ρ v) xs := by
  refine ⟨fun v hv => if_neg hv, fun c n k hc => ?_⟩
  refine of_agree hx (fun c n k hc => h.element c n k (hsub hc)) (fun n k => ?_)
    (fun x hx => if_pos hx) hc
  rw [if_neg (hx.root_notMem n k), h.root hy]

theorem merge (h : M.Chooses ρ χ xs) (h' : M.Chooses ρ ψ ys) (hx : NodeSet xs) (hy : NodeSet ys)
    (hapart : ∀ x ∈ ys, x ∉ xs) : M.Chooses ρ (fun v => if v ∈ xs then χ v else ψ v) (xs ++ ys) := by
  refine ⟨fun v hv => ?_, fun c n k hc => ?_⟩
  · rw [List.mem_append, not_or] at hv
    rw [if_neg hv.1, h'.same v hv.2]
  · obtain hc | hc := List.mem_append.mp hc
    · refine of_agree hx h.element (fun n k => ?_) (fun x hx => if_pos hx) hc
      rw [if_neg (hx.root_notMem n k), h.root hx, h'.root hy]
    · exact of_agree hy h'.element (fun n k => if_neg (hx.root_notMem n k))
        (fun x hx => if_neg (hapart x hx)) hc

end Chooses

end Model

end QueryText
