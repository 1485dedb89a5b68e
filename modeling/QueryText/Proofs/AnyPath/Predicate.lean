import QueryText.Proofs.AnyPath.Model

namespace QueryText

variable {α : Type}

inductive Predicate where
  | comparison (e : Expr)
  | and (p q : Predicate)
  | or (p q : Predicate)
  | not (p : Predicate)

namespace Predicate

def expr : Predicate → Expr
  | comparison e => e
  | and p q => .operation .and [p.expr, q.expr]
  | or p q => .operation .or [p.expr, q.expr]
  | not p => .operation .not [p.expr]

def comparisons : Predicate → List Expr
  | comparison e => [e]
  | and p q => p.comparisons ++ q.comparisons
  | or p q => p.comparisons ++ q.comparisons
  | not p => p.comparisons

theorem anyNodes_expr (p : Predicate) : p.expr.anyNodes = p.comparisons.flatMap (·.anyNodes) := by
  induction p with
  | comparison e => simp [expr, comparisons]
  | and p q ihp ihq | or p q ihp ihq =>
    simp only [Expr.anyNodes] at ihp ihq
    simp [expr, comparisons, Expr.anyNodes, Expr.paths, Expr.pathsOfAll, ihp, ihq]
  | not p ih =>
    simp only [Expr.anyNodes] at ih
    simp [expr, comparisons, Expr.anyNodes, Expr.paths, Expr.pathsOfAll, ih]

theorem anyNodes_subset (p : Predicate) {e : Expr} (he : e ∈ p.comparisons) :
    e.anyNodes ⊆ p.expr.anyNodes := by
  intro x hx
  rw [p.anyNodes_expr]
  exact List.mem_flatMap.mpr ⟨e, he, hx⟩

/-- No node `collection.any` stands in two comparisons. -/
def Apart (p : Predicate) : Prop :=
  p.comparisons.Pairwise fun e f => ∀ x ∈ f.anyNodes, x ∉ e.anyNodes

/-- No comparison through any element of a collection stands below a negation. -/
def Positive : Predicate → Prop
  | comparison _ => True
  | and p q => p.Positive ∧ q.Positive
  | or p q => p.Positive ∧ q.Positive
  | not p => p.expr.anyNodes = []

end Predicate

namespace Model

variable (M : Model α)

/-- Some elements of the collections that the comparison goes through satisfy it. -/
def Satisfied (ρ : Assignment α) (e : Expr) : Prop :=
  ∃ χ, M.Chooses ρ χ e.anyNodes ∧ M.Holds χ e

/-- The predicate is true of the candidate: each comparison stands for itself. -/
def TrueOf (ρ : Assignment α) : Predicate → Prop
  | .comparison e => M.Satisfied ρ e
  | .and p q => TrueOf ρ p ∧ TrueOf ρ q
  | .or p q => TrueOf ρ p ∨ TrueOf ρ q
  | .not p => ¬ TrueOf ρ p

/-- The collections of all nodes of the expression have elements. -/
def Populated (ρ : Assignment α) (e : Expr) : Prop :=
  ∃ χ, M.Chooses ρ χ e.anyNodes

variable {M} {ρ χ : Assignment α} {e : Expr}

theorem holds_iff_trueOf (p : Predicate)
    (h : ∀ e ∈ p.comparisons, M.Holds χ e ↔ M.Satisfied ρ e) : M.Holds χ p.expr ↔ M.TrueOf ρ p := by
  induction p with
  | comparison e => exact h e (by simp [Predicate.comparisons])
  | and p q ihp ihq =>
    have hp := ihp fun e he => h e (List.mem_append_left _ he)
    have hq := ihq fun e he => h e (List.mem_append_right _ he)
    exact (M.isTrue_and _ _).trans (and_congr hp hq)
  | or p q ihp ihq =>
    have hp := ihp fun e he => h e (List.mem_append_left _ he)
    have hq := ihq fun e he => h e (List.mem_append_right _ he)
    exact (M.isTrue_or _ _).trans (or_congr hp hq)
  | not p ih => exact (M.isTrue_not _).trans (not_congr (ih h))

theorem satisfied_of_holds {xs : List Path} (hχ : M.Chooses ρ χ xs) (hxs : NodeSet xs)
    (hsub : e.anyNodes ⊆ xs) (h : M.Holds χ e) : M.Satisfied ρ e := by
  refine ⟨_, hχ.restrict e.nodeSet_anyNodes hxs hsub,
    (holds_congr (fun n k => ?_) fun x hx => ?_).mp h⟩
  · rw [if_neg (e.nodeSet_anyNodes.root_notMem n k), hχ.root hxs]
  · rw [if_pos hx]

theorem holds_of_satisfied {xs : List Path} (hχ : M.Chooses ρ χ xs) (hxs : NodeSet xs)
    (he : e.anyNodes = []) (h : M.Satisfied ρ e) : M.Holds χ e := by
  obtain ⟨ψ, hψ, hholds⟩ := h
  refine (holds_congr (fun n k => ?_) fun x hx => ?_).mp hholds
  · rw [hψ.root e.nodeSet_anyNodes, hχ.root hxs]
  · rw [he] at hx
    cases hx

/-- Where nodes stand below no negation, what is true with one choice for all comparisons is true with
a choice for each. -/
theorem trueOf_of_holds {xs : List Path} (hχ : M.Chooses ρ χ xs) (hxs : NodeSet xs) (p : Predicate)
    (hp : p.Positive) (hsub : ∀ e ∈ p.comparisons, e.anyNodes ⊆ xs) (h : M.Holds χ p.expr) :
    M.TrueOf ρ p := by
  induction p with
  | comparison e => exact satisfied_of_holds hχ hxs (hsub e (by simp [Predicate.comparisons])) h
  | and p q ihp ihq =>
    obtain ⟨hholdsp, hholdsq⟩ := (M.isTrue_and _ _).mp h
    exact ⟨ihp hp.1 (fun e he => hsub e (List.mem_append_left _ he)) hholdsp,
      ihq hp.2 (fun e he => hsub e (List.mem_append_right _ he)) hholdsq⟩
  | or p q ihp ihq =>
    obtain hholds | hholds := (M.isTrue_or _ _).mp h
    · exact .inl (ihp hp.1 (fun e he => hsub e (List.mem_append_left _ he)) hholds)
    · exact .inr (ihq hp.2 (fun e he => hsub e (List.mem_append_right _ he)) hholds)
  | not p ih =>
    have hplain : ∀ e ∈ p.comparisons, e.anyNodes = [] := by
      intro e he
      rw [Predicate.Positive, Predicate.anyNodes_expr, List.flatMap_eq_nil_iff] at hp
      exact hp e he
    have hiff : M.Holds χ p.expr ↔ M.TrueOf ρ p :=
      holds_iff_trueOf p fun e he =>
        ⟨satisfied_of_holds hχ hxs (hsub e he), holds_of_satisfied hχ hxs (hplain e he)⟩
    exact fun ht => (M.isTrue_not _).mp h (hiff.mpr ht)

/-- Comparisons that are apart have a choice in common that satisfies all of them that can be
satisfied, if all their collections have elements. -/
theorem exists_choice (es : List Expr)
    (hapart : es.Pairwise fun e f => ∀ x ∈ f.anyNodes, x ∉ e.anyNodes)
    (hpop : ∀ e ∈ es, M.Populated ρ e) :
    ∃ χ, M.Chooses ρ χ (es.flatMap (·.anyNodes)) ∧ ∀ e ∈ es, M.Holds χ e ↔ M.Satisfied ρ e := by
  induction es with
  | nil => exact ⟨ρ, .empty ρ, by simp⟩
  | cons e es ih =>
    obtain ⟨he, hes⟩ := List.pairwise_cons.mp hapart
    obtain ⟨ψ, hψ, hψes⟩ := ih hes fun f hf => hpop f (List.mem_cons_of_mem e hf)
    obtain ⟨χ, hχ, hχe⟩ : ∃ χ, M.Chooses ρ χ e.anyNodes ∧ (M.Holds χ e ↔ M.Satisfied ρ e) := by
      by_cases hs : M.Satisfied ρ e
      · obtain ⟨χ, hχ, hholds⟩ := hs
        exact ⟨χ, hχ, fun _ => ⟨χ, hχ, hholds⟩, fun _ => hholds⟩
      · obtain ⟨χ, hχ⟩ := hpop e (by simp)
        exact ⟨χ, hχ, fun hholds => ⟨χ, hχ, hholds⟩, fun h => absurd h hs⟩
    have hset := e.nodeSet_anyNodes
    have hsets := Expr.nodeSet_flatMap_anyNodes es
    have happ : ∀ x ∈ es.flatMap (·.anyNodes), x ∉ e.anyNodes := by
      intro x hx
      obtain ⟨f, hf, hx⟩ := List.mem_flatMap.mp hx
      exact he f hf x hx
    -- the first comparison looks at its own nodes only, and the others at none of them
    refine ⟨_, hχ.merge hψ hset hsets happ, fun f hf => ?_⟩
    obtain rfl | hf := List.mem_cons.mp hf
    · refine (holds_congr (fun n k => ?_) fun x hx => if_pos hx).trans hχe
      rw [if_neg (hset.root_notMem n k), hχ.root hset, hψ.root hsets]
    · refine (holds_congr (fun n k => if_neg (hset.root_notMem n k)) fun x hx => ?_).trans (hψes f hf)
      exact if_neg (happ x (List.mem_flatMap.mpr ⟨f, hf, hx⟩))

theorem exists_choice_of_apart {p : Predicate} (hapart : p.Apart) (hpop : M.Populated ρ p.expr) :
    ∃ χ, M.Chooses ρ χ p.expr.anyNodes ∧ (M.Holds χ p.expr ↔ M.TrueOf ρ p) := by
  obtain ⟨χ, hχ⟩ := hpop
  have hpops : ∀ e ∈ p.comparisons, M.Populated ρ e :=
    fun e he => ⟨_, hχ.restrict e.nodeSet_anyNodes p.expr.nodeSet_anyNodes (p.anyNodes_subset he)⟩
  obtain ⟨ψ, hψ, hψp⟩ := exists_choice p.comparisons hapart hpops
  rw [← p.anyNodes_expr] at hψ
  exact ⟨ψ, hψ, holds_iff_trueOf p hψp⟩

end Model

end QueryText
