import QueryText.Proofs.Building.Call

namespace QueryText.Query

open AnyPath

inductive Origin where
  | caller (kind : JoinKind) (target : Expr)
  | element (r : Replacement)

namespace Origin

def joined : Origin → JoinKind × Expr
  | caller k t => (k, t)
  | element r => r.join.joined

def isElement : Origin → Bool
  | caller _ _ => false
  | element _ => true

def declares? (o : Origin) : Option Path :=
  Builder.declared? o.joined.2

end Origin

def Call.origins (b : Builder) (os : List Origin) : Call → List Origin
  | .sources ts => os ++ ts.map (.caller .plain)
  | .join k t => os ++ [.caller k t]
  | .joinAs k t v => os ++ [.caller k (.aliased (.path t) v)]
  | .joinWhen k t c =>
    match (b.joinWhen k t c).refusal with
    | some _ => os
    | none => os ++ (b.replaced (some t) [c]).map .element ++ [.caller k t]
  | .when cs =>
    match b.select.current, b.select.currentJoin? with
    | some i, some j => os.take i ++ (b.replaced (some j.target) cs).map .element ++ os.drop i
    | _, _ => os
  | .filter cs | .having cs => os ++ (b.replaced none cs).map .element
  | _ => os

def Builder.origins (b : Builder) (os : List Origin) : List Call → List Origin
  | [] => os
  | c :: cs => (c.perform b).builder.origins (c.origins b os) cs

inductive Newest : List Origin → Option Nat → Prop
  | absent {os : List Origin} : (∀ o ∈ os, o.isElement = true) → Newest os none
  | last (before : List Origin) (k : JoinKind) (t : Expr) {after : List Origin} :
      (∀ o ∈ after, o.isElement = true) → Newest (before ++ .caller k t :: after) (some before.length)

/-- The origins are those of the builder's joins, and its current join is the caller's last. -/
structure Traced (b : Builder) (os : List Origin) : Prop where
  joined : b.select.joins.map (·.joined) = os.map (·.joined)
  newest : Newest os b.select.current

theorem isElement_of_mem_map {rs : List Replacement} :
    ∀ o ∈ rs.map Origin.element, o.isElement = true := by
  intro o ho
  obtain ⟨r, -, rfl⟩ := List.mem_map.mp ho
  rfl

theorem map_joined_join (rs : List Replacement) :
    (rs.map (·.join)).map (·.joined) = (rs.map Origin.element).map (·.joined) := by
  simp [Function.comp_def, Origin.joined]

namespace Newest

variable {os es : List Origin} {i : Option Nat}

theorem append_elements (h : Newest os i) (hes : ∀ o ∈ es, o.isElement = true) :
    Newest (os ++ es) i := by
  cases h with
  | absent hos =>
    refine .absent fun o ho => ?_
    obtain ho | ho := List.mem_append.mp ho
    · exact hos o ho
    · exact hes o ho
  | last before k t hafter =>
    rw [List.append_assoc, List.cons_append]
    refine .last before k t fun o ho => ?_
    obtain ho | ho := List.mem_append.mp ho
    · exact hafter o ho
    · exact hes o ho

theorem append_caller (os : List Origin) (k : JoinKind) (t : Expr) :
    Newest (os ++ [.caller k t]) (some os.length) :=
  .last os k t (by simp)

end Newest

namespace Traced

variable {b b' : Builder} {os : List Origin}

theorem length_eq (h : Traced b os) : b.select.joins.length = os.length := by
  simpa using congrArg List.length h.joined

theorem of_select (h : Traced b os)
    (hjoins : b'.select.joins.map (·.joined) = b.select.joins.map (·.joined))
    (hcurrent : b'.select.current = b.select.current) : Traced b' os :=
  ⟨hjoins.trans h.joined, hcurrent ▸ h.newest⟩

theorem append_elements (h : Traced b os) {rs : List Replacement}
    (hjoins : b'.select.joins = b.select.joins ++ rs.map (·.join))
    (hcurrent : b'.select.current = b.select.current) : Traced b' (os ++ rs.map .element) := by
  constructor
  · rw [hjoins, List.map_append, List.map_append, h.joined, map_joined_join]
  · rw [hcurrent]
    exact h.newest.append_elements isElement_of_mem_map

theorem append_caller (h : Traced b os) {rs : List Replacement} {j : Join Expr}
    (hjoins : b'.select.joins = b.select.joins ++ rs.map (·.join) ++ [j])
    (hcurrent : b'.select.current = some (b.select.joins ++ rs.map (·.join)).length) :
    Traced b' (os ++ rs.map .element ++ [.caller j.kind j.target]) := by
  constructor
  · rw [hjoins, List.map_append, List.map_append, h.joined, map_joined_join]
    simp [Origin.joined, Join.joined]
  · have hlength : (b.select.joins ++ rs.map (·.join)).length =
        (os ++ rs.map Origin.element).length := by
      simp [h.length_eq]
    rw [hcurrent, hlength]
    exact .append_caller _ _ _

theorem join (h : Traced b os) (k : JoinKind) (t : Expr) :
    Traced (b.join k t) (os ++ [.caller k t]) := by
  have hjoin : Traced (b.join k t) (os ++ [].map .element ++ [.caller k t]) :=
    h.append_caller (j := .of k t)
      (by simp [Builder.join, Builder.modify, Select.addJoin])
      (by simp [Builder.join, Builder.modify, Select.addJoin])
  simpa using hjoin

theorem sources (h : Traced b os) (ts : List Expr) :
    Traced (b.sources ts) (os ++ ts.map (.caller .plain)) := by
  induction ts generalizing b os with
  | nil => simpa [Builder.sources, Builder.modify] using h
  | cons t ts ih =>
    have hts := ih (h.join .plain t)
    rw [List.append_assoc] at hts
    exact hts

theorem joinWhen (h : Traced b os) (k : JoinKind) (t : Expr) (c : Condition) :
    Traced (b.joinWhen k t c).builder ((Call.joinWhen k t c).origins b os) := by
  cases hr : (b.joinWhen k t c).refusal with
  | some refusal =>
    have hselect := Builder.joinWhen_refused hr
    simp only [Call.origins, hr]
    exact h.of_select (by rw [hselect]) (by rw [hselect])
  | none =>
    have hselect := Builder.joinWhen_select hr
    dsimp only at hselect
    rw [← map_join_replaced, ← Builder.replaced_of_not_refused hr] at hselect
    simp only [Call.origins, hr]
    exact h.append_caller (j := ⟨k, t, _, []⟩) (by rw [hselect]; rfl) (by rw [hselect]; rfl)

/-- Without a join of the caller there is no current one. Otherwise the joins are split at the current
one as the origins are at the caller's last. -/
theorem current_cases (h : Traced b os) :
    (b.select.current = none ∧ ∀ o ∈ os, o.isElement = true) ∨
      ∃ before k t after js j js', os = before ++ .caller k t :: after ∧
        (∀ o ∈ after, o.isElement = true) ∧
        b.select.joins = js ++ j :: js' ∧ b.select.current = some js.length ∧
        js.map (·.joined) = before.map (·.joined) ∧ j.joined = (k, t) ∧
        js'.map (·.joined) = after.map (·.joined) := by
  have hjoined := h.joined
  have hnewest := h.newest
  generalize b.select.current = i at hnewest ⊢
  cases hnewest with
  | absent hos => exact .inl ⟨rfl, hos⟩
  | last before k t hafter =>
    rw [List.map_append, List.map_cons] at hjoined
    obtain ⟨js, rest, hjs, hbefore, hrest⟩ := List.map_eq_append_iff.mp hjoined
    obtain ⟨j, js', rfl, hj, hjs'⟩ := List.map_eq_cons_iff.mp hrest
    have hlength : js.length = before.length := by
      simpa using congrArg List.length hbefore
    exact .inr ⟨before, k, t, _, js, j, js', rfl, hafter, hjs, by rw [hlength], hbefore, hj, hjs'⟩

theorem when_cases (h : Traced b os) (cs : List Condition) :
    (Call.when cs).origins b os = os ∧ (b.when cs).builder = b ∨
      ∃ before k t after, os = before ++ .caller k t :: after ∧ (∀ o ∈ after, o.isElement = true) ∧
        (Call.when cs).origins b os =
          before ++ (b.replaced (some t) cs).map .element ++ .caller k t :: after ∧
        Traced (b.when cs).builder
          (before ++ (b.replaced (some t) cs).map .element ++ .caller k t :: after) := by
  obtain ⟨hnone, -⟩ |
    ⟨before, k, t, after, js, j, js', rfl, hafter, hjs, hcurrent, hbefore, hj, hjs'⟩ :=
    h.current_cases
  · refine .inl ⟨?_, ?_⟩
    · simp only [Call.origins, hnone]
    · simp only [Builder.when, Select.currentJoin?, hnone, Option.bind_none]
  · refine .inr ⟨before, k, t, after, rfl, hafter, ?_⟩
    have hlength : js.length = before.length := by
      simpa using congrArg List.length hbefore
    have hcurrentJoin : b.select.currentJoin? = some j := by
      simp [Select.currentJoin?, hcurrent, hjs]
    obtain ⟨rfl, rfl⟩ : j.kind = k ∧ j.target = t := Prod.mk.inj hj
    have hselect := Builder.joinConditions_select (b := b) j.target cs hjs hcurrent
    dsimp only at hselect
    rw [← map_join_replaced, ← Builder.replaced_some] at hselect
    refine ⟨?_, ?_, ?_⟩
    · simp [Call.origins, hcurrent, hcurrentJoin, hlength]
    · simp only [Builder.when, hcurrentJoin, hselect]
      rw [List.map_append, List.map_append, List.map_cons, hbefore, map_joined_join, hjs']
      simp [Origin.joined, Join.joined]
    · have hlength' : (js ++ (b.replaced (some j.target) cs).map (·.join)).length =
          (before ++ (b.replaced (some j.target) cs).map Origin.element).length := by
        simp [hlength]
      simp only [Builder.when, hcurrentJoin, hselect]
      rw [hlength']
      exact .last _ _ _ hafter

theorem addFlag (h : Traced b os) (f : JoinFlag) : Traced (b.addFlag f).builder os := by
  obtain ⟨hnone, -⟩ | ⟨before, k, t, after, js, j, js', -, -, hjs, hcurrent, -⟩ := h.current_cases
  · have hflag : b.select.addJoinFlag f = .error (.precondition .noJoin) := by
      simp [Select.addJoinFlag, Select.modifyCurrent?, hnone, Select.orNoJoin]
    refine h.of_select ?_ ?_ <;> simp only [Builder.addFlag, Builder.attempt, hflag]
  · have hflag := Select.addJoinFlag_eq f hjs hcurrent
    refine h.of_select ?_ ?_ <;> simp only [Builder.addFlag, Builder.attempt, hflag]
    rw [hjs, List.map_append, List.map_append, List.map_cons, List.map_cons]
    rfl

theorem perform (h : Traced b os) (c : Call) : Traced (c.perform b).builder (c.origins b os) := by
  cases c with
  | sources ts => exact h.sources ts
  | join k t => exact h.join k t
  | joinAs k t v => exact h.join k _
  | joinWhen k t c => exact h.joinWhen k t c
  | when cs =>
    obtain ⟨hos, hb⟩ | ⟨before, k, t, after, -, -, hos, htraced⟩ := h.when_cases cs
    · rw [hos]
      exact h.of_select (by rw [Call.perform, hb]) (by rw [Call.perform, hb])
    · rw [hos]
      exact htraced
  | filter cs =>
    have hselect := Builder.filter_select b cs
    rw [← map_join_replaced, ← Builder.replaced_none] at hselect
    exact h.append_elements (by rw [Call.perform, hselect]) (by rw [Call.perform, hselect])
  | having cs =>
    have hselect := Builder.having_select b cs
    rw [← map_join_replaced, ← Builder.replaced_none] at hselect
    exact h.append_elements (by rw [Call.perform, hselect]) (by rw [Call.perform, hselect])
  | flag f => exact h.addFlag f
  | groupBy es =>
    obtain ⟨hjoins, hcurrent⟩ :=
      Select.foldl_joins (f := .addGroup) (fun _ _ => ⟨rfl, rfl⟩) es b.select
    exact h.of_select (congrArg _ hjoins) hcurrent
  | orderBy os =>
    obtain ⟨hjoins, hcurrent⟩ :=
      Select.foldl_joins (f := .addOrder) (fun _ _ => ⟨rfl, rfl⟩) os b.select
    exact h.of_select (congrArg _ hjoins) hcurrent
  | project es =>
    obtain ⟨hjoins, hcurrent⟩ :=
      Select.foldl_joins (f := .addProjection) (fun _ _ => ⟨rfl, rfl⟩) es b.select
    exact h.of_select (congrArg _ hjoins) hcurrent
  | distinct | unique | limit n | offset n | restrict w | bind p v => exact h.of_select rfl rfl

theorem empty (normalizing : Bool) : Traced (.empty normalizing) [] :=
  ⟨rfl, .absent (by simp)⟩

theorem after (h : Traced b os) (calls : List Call) :
    Traced (b.after calls) (b.origins os calls) := by
  induction calls generalizing b os with
  | nil => exact h
  | cons c cs ih => exact ih (h.perform c)

end Traced

end QueryText.Query
