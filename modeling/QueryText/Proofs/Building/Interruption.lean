import QueryText.Proofs.Building.Scoping

namespace QueryText

namespace Expr

theorem sizeOf_le_foldl_and (e : Expr) (es : List Expr) : sizeOf e ≤ sizeOf (es.foldl Expr.and e) := by
  induction es generalizing e with
  | nil => exact Nat.le_refl _
  | cons e' es ih =>
    have hand : sizeOf e ≤ sizeOf (e.and e') := by
      simp [Expr.and]
      omega
    exact hand.trans (ih (e.and e'))

end Expr

namespace Condition

theorem extend_eq_self_iff (c : Condition) (es : List Expr) : extend c es = c ↔ es = [] := by
  cases es with
  | nil => simp [extend]
  | cons e es =>
    refine ⟨fun h => ?_, fun h => by cases h⟩
    cases c with
    | none =>
      rw [extend_none, Expr.conjunction?] at h
      cases h
    | some e' =>
      -- A conjunction is larger than its first part.
      rw [extend_some, Option.some.injEq, List.foldl_cons] at h
      have hle := Expr.sizeOf_le_foldl_and (e'.and e) es
      rw [h] at hle
      simp [Expr.and] at hle
      omega

end Condition

end QueryText

namespace QueryText.Query

namespace Builder

variable {b : Builder} {target : Expr}

theorem joinCondition_kept {e : Expr} {refusal : QueryError}
    (h : (b.joinCondition target e).refusal = some refusal) :
    (b.joinCondition target e).builder.select = b.select := by
  cases hr : selfReference? target (b.normalized e) with
  | some _ => rw [joinCondition_refused hr]
  | none =>
    simp only [joinCondition, hr, attempt] at h ⊢
    split at h
    · cases h
    · rfl

theorem joinConditions_interrupted {cs : List Condition} {refusal : QueryError}
    (h : (b.joinConditions target cs).refusal = some refusal) :
    ∃ before e behind, cs = before ++ some e :: behind ∧
      (b.joinConditions target before).refusal = none ∧
      ((b.joinConditions target before).builder.joinCondition target e).refusal = some refusal ∧
      (b.joinConditions target cs).builder.select =
        (b.joinConditions target before).builder.select := by
  induction cs generalizing b with
  | nil => cases h
  | cons c cs ih =>
    cases c with
    | none =>
      obtain ⟨before, e, behind, rfl, hbefore, he, hselect⟩ := ih h
      exact ⟨none :: before, e, behind, rfl, hbefore, he, hselect⟩
    | some e =>
      cases hr : (b.joinCondition target e).refusal with
      | some refusal' =>
        simp only [joinConditions, hr] at h ⊢
        exact ⟨[], e, cs, rfl, rfl, hr.trans h, joinCondition_kept hr⟩
      | none =>
        simp only [joinConditions, hr] at h
        obtain ⟨before, e', behind, rfl, hbefore, he, hselect⟩ := ih h
        refine ⟨some e :: before, e', behind, rfl, ?_, ?_, ?_⟩ <;>
          simp only [joinConditions, hr]
        · exact hbefore
        · exact he
        · exact hselect

theorem accepted_eq_nil_iff (cs : List Condition) :
    b.accepted target cs = [] ↔
      ∀ e, cs.findSome? id = some e → selfReference? target (b.normalized e) ≠ none := by
  induction cs with
  | nil => simp [accepted, normalizedAll]
  | cons c cs ih =>
    cases c with
    | none => exact ih
    | some e =>
      cases hr : selfReference? target (b.normalized e) with
      | some refusal => simp [accepted_refused b cs hr, hr]
      | none => simp [accepted_cons b cs hr, hr]

theorem when_of_none (cs : List Condition) (hnone : b.select.current = none) :
    b.when cs = ⟨b, [], some (.precondition .noJoin)⟩ := by
  simp only [when, Select.currentJoin?, hnone, Option.bind_none]

section Current

variable {before after : List (Join Expr)} {j : Join Expr}

theorem when_of_current (cs : List Condition) (hjoins : b.select.joins = before ++ j :: after)
    (hcurrent : b.select.current = some before.length) : b.when cs = b.joinConditions j.target cs := by
  have hj : b.select.currentJoin? = some j := by simp [Select.currentJoin?, hcurrent, hjoins]
  simp only [when, hj]

theorem joinConditions_kept_iff (cs : List Condition) (hjoins : b.select.joins = before ++ j :: after)
    (hcurrent : b.select.current = some before.length) :
    (b.joinConditions target cs).builder.select = b.select ↔ b.accepted target cs = [] := by
  rw [joinConditions_select (b := b) target cs hjoins hcurrent]
  constructor
  · intro h
    have hcurrents := congrArg Select.current h
    have hlists := congrArg Select.joins h
    simp only [hcurrent, Option.some.injEq, List.length_append, Nat.add_eq_left,
      List.length_eq_zero_iff] at hcurrents
    -- No joins are added, so that it is the current join itself that is compared.
    simp only [hcurrents, hjoins, List.append_nil, List.append_cancel_left_eq, List.cons.injEq,
      and_true] at hlists
    have hcondition := congrArg Join.condition hlists
    exact List.map_eq_nil_iff.mp ((Condition.extend_eq_self_iff _ _).mp hcondition)
  · intro h
    simp [h, Condition.extend, ← hjoins, ← hcurrent]

theorem when_single_refusal (e : Expr) (hjoins : b.select.joins = before ++ j :: after)
    (hcurrent : b.select.current = some before.length) :
    (b.when [some e]).refusal = selfReference? j.target (b.normalized e) := by
  rw [when_of_current _ hjoins hcurrent,
    joinConditions_refusal (b := b) (q := b.select) j.target _ hjoins hcurrent]
  simp [normalizedAll]

theorem joinCondition_refusal (e : Expr) (hjoins : b.select.joins = before ++ j :: after)
    (hcurrent : b.select.current = some before.length) :
    (b.joinCondition target e).refusal = selfReference? target (b.normalized e) := by
  cases hr : selfReference? target (b.normalized e) with
  | some refusal => rw [joinCondition_refused hr]
  | none => rw [joinCondition_accepted hr hjoins hcurrent]

theorem joinConditions_rest (cs : List Condition) (hjoins : b.select.joins = before ++ j :: after)
    (hcurrent : b.select.current = some before.length) :
    (b.joinConditions target cs).builder.select =
      { b.select with
        joins := (b.joinConditions target cs).builder.select.joins
        current := (b.joinConditions target cs).builder.select.current } := by
  rw [joinConditions_select (b := b) target cs hjoins hcurrent]

theorem when_interrupted {cs : List Condition} {refusal : QueryError}
    (hjoins : b.select.joins = before ++ j :: after) (hcurrent : b.select.current = some before.length)
    (h : (b.when cs).refusal = some refusal) :
    ∃ front e behind, cs = front ++ some e :: behind ∧ (b.when front).refusal = none ∧
      ((b.when front).builder.when [some e]).refusal = some refusal ∧
      (b.when cs).builder.select = (b.when front).builder.select := by
  rw [when_of_current cs hjoins hcurrent] at h ⊢
  obtain ⟨front, e, behind, hcs, hfront, he, hselect⟩ := joinConditions_interrupted h
  rw [← when_of_current front hjoins hcurrent] at hfront he hselect
  refine ⟨front, e, behind, hcs, hfront, ?_, hselect⟩
  -- The current join is still the same, with the conditions of the front.
  have hstill := joinConditions_select (b := b) (q := b.select) j.target front hjoins hcurrent
  have hjoins' := congrArg Select.joins hstill
  have hcurrent' := congrArg Select.current hstill
  rw [← when_of_current front hjoins hcurrent] at hjoins' hcurrent'
  rw [when_single_refusal e hjoins' hcurrent', ← joinCondition_refusal e hjoins' hcurrent']
  exact he

end Current

end Builder

/-- A refused call keeps the query just if the first condition that it is given is refused. Otherwise the
conditions in front of the refused one stay, with their joins; the rest of the query is never touched. -/
theorem when_keeps_iff (normalizing : Bool) (calls : List Call) (cs : List Condition)
    {refusal : QueryError}
    (h : (((Builder.empty normalizing).after calls).when cs).refusal = some refusal) :
    let b := (Builder.empty normalizing).after calls
    ((b.when cs).builder.select = b.select ↔
        ∀ e, cs.findSome? id = some e → (b.when [some e]).refusal ≠ none) ∧
      (b.when cs).builder.select =
        { b.select with
          joins := (b.when cs).builder.select.joins
          current := (b.when cs).builder.select.current } ∧
      (b.select.current ≠ none → ∃ front e behind, cs = front ++ some e :: behind ∧
        (b.when front).refusal = none ∧ ((b.when front).builder.when [some e]).refusal = some refusal ∧
        (b.when cs).builder.select = (b.when front).builder.select) := by
  intro b
  obtain ⟨hnone, -⟩ | ⟨-, k, t, -, before, j, after, -, -, hjoins, hcurrent, -, -, -⟩ :=
    ((Traced.empty normalizing).after calls).current_cases
  · rw [Builder.when_of_none cs hnone]
    refine ⟨⟨fun _ e _ => ?_, fun _ => rfl⟩, rfl, fun hcurrent => absurd hnone hcurrent⟩
    rw [Builder.when_of_none _ hnone]
    exact Option.some_ne_none _
  · have hkept : (b.when cs).builder.select = b.select ↔ b.accepted j.target cs = [] := by
      rw [Builder.when_of_current cs hjoins hcurrent]
      exact Builder.joinConditions_kept_iff cs hjoins hcurrent
    refine ⟨?_, ?_, fun _ => Builder.when_interrupted hjoins hcurrent h⟩
    · rw [hkept, Builder.accepted_eq_nil_iff]
      refine forall₂_congr fun e _ => ?_
      rw [Builder.when_single_refusal e hjoins hcurrent]
    · rw [Builder.when_of_current cs hjoins hcurrent]
      exact Builder.joinConditions_rest cs hjoins hcurrent

/-- Products, joined to the cats. -/
def productJoin : Call :=
  .join .left (.path (.source (.ofType "Product") "product"))

/-- A condition that runs through the products' own tags. -/
def productTagged : Condition :=
  let product := Path.source (.ofType "Product") "product"
  some (.operation .eq [.path (product.collection "tags" .text).anyElement, .constant (.text "t")])

theorem when_keeps_iff_productTagged :
    let b := (Builder.empty true).after [catSource, productJoin]
    (b.when [none, productTagged, kittenNamed]).refusal ≠ none ∧
      (b.when [none, productTagged, kittenNamed]).builder.select = b.select := by
  intro b
  have hsingle : (b.when [productTagged]).refusal ≠ none := Option.some_ne_none _
  obtain ⟨hkeeps, -⟩ := when_keeps_iff true [catSource, productJoin]
    [none, productTagged, kittenNamed] rfl
  refine ⟨Option.some_ne_none _, hkeeps.mpr fun e he => ?_⟩
  obtain rfl := Option.some.inj he
  exact hsingle

/-- The condition in front of the refused one stays, with the join for the kittens. -/
theorem kittensThenTags_not_kept :
    let b := (Builder.empty true).after [catSource, productJoin]
    (b.when [kittenNamed, productTagged]).refusal ≠ none ∧ b.select.joins.length = 2 ∧
      (b.when [kittenNamed, productTagged]).builder.select.joins.length = 3 := by
  decide +kernel

end QueryText.Query
