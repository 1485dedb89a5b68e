import QueryText.Proofs.Building.Elements
import QueryText.Proofs.Building.Interruption

namespace QueryText.Query

open AnyPath

open Origin (elements)

namespace Builder

variable {b : Builder}

/-- How many joins the events of the calls report. -/
def reported (b : Builder) (calls : List Call) : Nat :=
  ((b.gather (fun b c => (c.perform b).events) calls).map (·.joinsAdded)).sum

/-- Why calls are refused, in turn. -/
def refusals (b : Builder) (calls : List Call) : List QueryError :=
  b.gather (fun b c => (c.perform b).refusal.toList) calls

theorem reported_eq_length (b : Builder) (calls : List Call) :
    b.reported calls = (b.gather Call.made calls).length := by
  induction calls generalizing b with
  | nil => rfl
  | cons c cs ih =>
    have hcs := ih (c.perform b).builder
    rw [reported] at hcs ⊢
    rw [gather, List.map_append, List.sum_append, (c.perform_makes b).reported, hcs, gather,
      List.length_append]

theorem length_gather_append {α : Type} (f g : Builder → Call → List α) (b : Builder) (calls : List Call) :
    (b.gather (fun b c => f b c ++ g b c) calls).length =
      (b.gather f calls).length + (b.gather g calls).length := by
  induction calls generalizing b with
  | nil => rfl
  | cons c cs ih =>
    simp only [gather, List.length_append, ih]
    omega

theorem gather_eq_nil_iff {α β : Type} {f : Builder → Call → List α} {g : Builder → Call → List β}
    {P : β → Prop} (h : ∀ b c, f b c = [] ↔ ∀ x ∈ g b c, P x) (b : Builder) (calls : List Call) :
    b.gather f calls = [] ↔ ∀ x ∈ b.gather g calls, P x := by
  induction calls generalizing b with
  | nil => simp [gather]
  | cons c cs ih => simp only [gather, List.append_eq_nil_iff, List.forall_mem_append, h, ih]

theorem selfReference?_eq_some {target : Expr} {n : Normalized} {refusal : QueryError}
    (h : selfReference? target n = some refusal) :
    n.replaced ≠ [] ∧ refusal ≠ .precondition .noJoin := by
  unfold selfReference? at h
  split at h
  · cases h
  · obtain ⟨r, hr, rfl⟩ := Option.map_eq_some_iff.mp h
    exact ⟨List.ne_nil_of_mem (List.mem_of_find?_eq_some hr), nofun⟩

theorem rejected_eq_nil_iff (target : Expr) (cs : List Condition) :
    b.rejected (some target) cs = [] ↔ (b.normalizedAll cs).findSome? (selfReference? target) = none := by
  induction cs generalizing b with
  | nil => simp [rejected, normalizedAll]
  | cons c cs ih =>
    cases c with
    | none => exact ih
    | some e =>
      cases hr : selfReference? target (b.normalized e) with
      | some refusal => simp [rejected, normalizedAll, hr, (selfReference?_eq_some hr).1]
      | none => simpa [rejected, normalizedAll, hr] using ih

theorem addConditions_refusal (add : Select Expr → Expr → Select Expr) (cs : List Condition)
    (b : Builder) : (b.addConditions add cs).refusal = none := by
  induction cs generalizing b with
  | nil => rfl
  | cons c cs ih =>
    cases c with
    | none => exact ih b
    | some e => exact ih _

theorem addFlag_refusal {f : JoinFlag} {refusal : QueryError}
    (h : (b.addFlag f).refusal = some refusal) : refusal = .precondition .noJoin := by
  simp only [addFlag, attempt, Select.addJoinFlag, Select.orNoJoin] at h
  split at h
  · cases h
  · next herror =>
    split at herror
    · cases herror
    · rw [← Option.some.inj h, ← Except.error.inj herror]

theorem refused_iff {target : Expr} {ns : List Normalized} :
    ns.findSome? (selfReference? target) = none ↔
      ∀ e ∈ (ns.findSome? (selfReference? target)).toList, e = .precondition .noJoin := by
  refine ⟨fun h => by simp [h], fun h => ?_⟩
  by_contra hsome
  obtain ⟨refusal, hrefusal⟩ := Option.ne_none_iff_exists'.mp hsome
  obtain ⟨n, -, hn⟩ := List.exists_of_findSome?_eq_some hrefusal
  exact (selfReference?_eq_some hn).2 (h refusal (by simp [hrefusal]))

end Builder

theorem Call.rejected_eq_nil_iff (b : Builder) (c : Call) :
    c.rejected b = [] ↔ ∀ e ∈ (c.perform b).refusal.toList, e = .precondition .noJoin := by
  cases c with
  | joinWhen k t c =>
    rw [rejected, perform, Builder.joinWhen_refusal, Builder.rejected_eq_nil_iff, Builder.refused_iff]
  | when cs =>
    cases hj : b.select.currentJoin? with
    | none => simp [rejected, perform, Builder.when, hj]
    | some j =>
      obtain ⟨before, after, hjoins, hcurrent⟩ := Select.exists_of_currentJoin? hj
      have hrefusal := Builder.joinConditions_refusal (b := b) (q := b.select) j.target cs hjoins hcurrent
      simp only [rejected, perform, Builder.when, hj, Option.map_some, Option.getD_some]
      rw [hrefusal, Builder.rejected_eq_nil_iff, Builder.refused_iff]
  | flag f => simpa [rejected, perform] using fun _ => Builder.addFlag_refusal
  | filter cs | having cs =>
    simp [rejected, perform, Builder.filter, Builder.having, Builder.addConditions_refusal]
  | sources ts | join k t | joinAs k t v | groupBy es | orderBy os | project es | distinct
  | unique | limit n | offset n | restrict w | bind p v => simp [rejected, perform]

theorem Origin.length_elements (os : List Origin) : (elements os).length = os.countP (·.isElement) := by
  induction os with
  | nil => rfl
  | cons o os ih =>
    cases o with
    | caller k t => exact ih
    | element r =>
      rw [List.countP_cons_of_pos rfl, ← ih]
      rfl

/-- The events report the joins for elements that the query has, and those of the conditions that were
refused, so that they account for the query just if no call was refused for its condition. -/
theorem reported_eq_iff (normalizing : Bool) (calls : List Call) :
    let b := Builder.empty normalizing
    let os := b.origins [] calls
    (b.after calls).select.joins.map (·.joined) = os.map (·.joined) ∧
      b.reported calls =
        os.countP (·.isElement) + (b.gather Call.rejected calls).length ∧
      (b.reported calls = os.countP (·.isElement) ↔ ∀ e ∈ b.refusals calls, e = .precondition .noJoin) := by
  intro b os
  have hpresent : os.countP (·.isElement) = (b.gather Call.added calls).length := by
    rw [← Origin.length_elements, (b.origins_perm [] calls).length_eq]
    rfl
  have hreported : b.reported calls =
      os.countP (·.isElement) + (b.gather Call.rejected calls).length := by
    rw [hpresent, Builder.reported_eq_length]
    exact Builder.length_gather_append _ _ b calls
  refine ⟨((Traced.empty normalizing).after calls).joined, hreported, ?_⟩
  rw [Builder.refusals, ← Builder.gather_eq_nil_iff Call.rejected_eq_nil_iff, ← List.length_eq_zero_iff,
    hreported]
  omega

/-- The tag is reported as an added join, although the products are not joined for it. -/
theorem productTagged_overreported :
    let calls := [catSource, .joinWhen .left (.path (.source (.ofType "Product") "product")) productTagged]
    let b := Builder.empty true
    b.reported calls = 1 ∧ (b.origins [] calls).countP (·.isElement) = 0 ∧
      (b.after calls).select.joins.length = 1 ∧ (b.refusals calls).length = 1 := by
  decide +kernel

end QueryText.Query
