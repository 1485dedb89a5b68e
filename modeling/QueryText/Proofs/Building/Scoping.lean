import QueryText.Proofs.AnyPath.Filling
import QueryText.Proofs.Building.Origin

namespace QueryText.Query

open AnyPath

def Declares (os : List Origin) (v : Path) : Prop :=
  ∃ o ∈ os, o.declares? = some v

def CallerDeclares (os : List Origin) (v : Path) : Prop :=
  ∃ o ∈ os, o.isElement = false ∧ o.declares? = some v

instance (os : List Origin) (v : Path) : Decidable (CallerDeclares os v) :=
  inferInstanceAs (Decidable (∃ o ∈ os, o.isElement = false ∧ o.declares? = some v))

theorem CallerDeclares.declares {os : List Origin} {v : Path} (h : CallerDeclares os v) :
    Declares os v := by
  obtain ⟨o, ho, -, hd⟩ := h
  exact ⟨o, ho, hd⟩

theorem CallerDeclares.before_last {before after : List Origin} {k : JoinKind} {t : Expr} {v : Path}
    (h : CallerDeclares (before ++ .caller k t :: after) v)
    (hafter : ∀ o ∈ after, o.isElement = true) :
    Declares before v ∨ Builder.declared? t = some v := by
  obtain ⟨o, ho, hcaller, hd⟩ := h
  obtain ho | ho := List.mem_append.mp ho
  · exact .inl ⟨o, ho, hd⟩
  · obtain rfl | ho := List.mem_cons.mp ho
    · exact .inr hd
    · rw [hafter o ho] at hcaller
      cases hcaller

def Origin.Founded (known : Path → Prop) : Origin → Prop
  | caller _ _ => True
  | element r => known r.collection.rootVariable

/-- Each join is founded on what is known before and what the joins in front of it declare. -/
def Scoped (known : Path → Prop) : List Origin → Prop
  | [] => True
  | o :: os => o.Founded known ∧ Scoped (fun v => known v ∨ o.declares? = some v) os

namespace Scoped

variable {known known' : Path → Prop} {os os' : List Origin}

theorem mono (hk : ∀ v, known v → known' v) (h : Scoped known os) : Scoped known' os := by
  induction os generalizing known known' with
  | nil => trivial
  | cons o os ih =>
    obtain ⟨ho, hos⟩ := h
    refine ⟨?_, ih (fun v => Or.imp_left (hk v)) hos⟩
    cases o with
    | caller k t => trivial
    | element r => exact hk _ ho

theorem append_iff : Scoped known (os ++ os') ↔
    Scoped known os ∧ Scoped (fun v => known v ∨ Declares os v) os' := by
  induction os generalizing known with
  | nil => simp [Scoped, Declares]
  | cons o os ih => simp [Scoped, ih, Declares, or_assoc, and_assoc]

theorem insert {es : List Origin} (h : Scoped known (os ++ os'))
    (hes : Scoped (fun v => known v ∨ Declares os v) es) : Scoped known (os ++ es ++ os') := by
  obtain ⟨hos, hos'⟩ := append_iff.mp h
  refine append_iff.mpr ⟨append_iff.mpr ⟨hos, hes⟩, hos'.mono fun v hv => ?_⟩
  obtain hv | ⟨o, ho, hd⟩ := hv
  · exact .inl hv
  · exact .inr ⟨o, List.mem_append_left es ho, hd⟩

theorem callers (known : Path → Prop) (os : List Origin) (h : ∀ o ∈ os, o.isElement = false) :
    Scoped known os := by
  induction os generalizing known with
  | nil => trivial
  | cons o os ih =>
    refine ⟨?_, ih _ fun o ho => h o (List.mem_cons_of_mem _ ho)⟩
    cases o with
    | caller k t => trivial
    | element r => simp [Origin.isElement] at h

theorem founded_at (h : Scoped known os) {i : Nat} {o : Origin} (ho : os[i]? = some o) :
    o.Founded fun v => known v ∨ Declares (os.take i) v := by
  obtain ⟨hi, rfl⟩ := List.getElem?_eq_some_iff.mp ho
  rw [← List.take_append_drop i os, List.drop_eq_getElem_cons hi] at h
  exact (append_iff.mp h).2.1

end Scoped

theorem scoped_of_table {first : Nat} {rs : List Replacement} (ht : Table first rs)
    {known : Path → Prop}
    (h : ∀ r ∈ rs,
      r.collection.rootVariable = r.node.rootVariable → known r.collection.rootVariable) :
    Scoped known (rs.map .element) := by
  induction ht with
  | nil => trivial
  | snoc ht hp _ ih =>
    rw [List.map_append]
    refine Scoped.append_iff.mpr ⟨ih fun r hr => h r (List.mem_append_left _ hr), ?_, trivial⟩
    obtain ⟨-, hroot | hroot⟩ := ht.viaElements_covered hp
    · exact .inl (h _ (by simp) hroot)
    · obtain ⟨r, hr, he⟩ := List.mem_map.mp hroot
      exact .inr ⟨.element r, List.mem_map_of_mem hr, congrArg some he⟩

/-- The variables that the nodes of the condition start from are known, except for the one that the
join for the condition declares. -/
def Grounded (known : Path → Prop) (own : Option Path) (e : Expr) : Prop :=
  ∀ x ∈ e.anyNodes, known x.rootVariable ∨ own = some x.rootVariable

instance (known : Path → Prop) [DecidablePred known] (own : Option Path) (e : Expr) :
    Decidable (Grounded known own e) :=
  inferInstanceAs (Decidable (∀ x ∈ e.anyNodes, known x.rootVariable ∨ own = some x.rootVariable))

namespace Builder

variable {target? : Option Expr} {known : Path → Prop}

theorem selfReference?_eq_none {target : Expr} {n : Normalized} (h : selfReference? target n = none)
    {r : Replacement} (hr : r ∈ n.replaced) : declared? target ≠ some r.collection.rootVariable := by
  intro hd
  simp only [selfReference?, hd, Option.map_eq_none_iff, List.find?_eq_none] at h
  simpa using h r hr

theorem normalized_scoped (b : Builder) {e : Expr} (h : Grounded known (target?.bind declared?) e)
    (hr : target?.bind (selfReference? · (b.normalized e)) = none) :
    Scoped known ((b.normalized e).replaced.map .element) := by
  by_cases hb : b.normalizing = true
  · obtain ⟨rs, ht, hnodes, hn⟩ := normalize_eq e b.nextElement
    have hn' : b.normalized e = ⟨e.mapPaths (viaElements rs), rs, b.nextElement + rs.length⟩ := by
      rw [normalized, if_pos hb, hn]
    rw [hn'] at hr ⊢
    refine scoped_of_table ht fun r hmem hroot => ?_
    obtain hknown | hown := h r.node ((hnodes _).mp (List.mem_map_of_mem hmem))
    · rw [hroot]
      exact hknown
    · -- a collection that starts from the variable of its own target has been refused
      cases target? with
      | none => cases hown
      | some t =>
        rw [← hroot] at hown
        exact absurd hown (selfReference?_eq_none hr hmem)
  · rw [normalized, if_neg hb]
    trivial

theorem replaced_scoped (b : Builder) (cs : List Condition)
    (h : ∀ e, some e ∈ cs → Grounded known (target?.bind declared?) e) :
    Scoped known ((b.replaced target? cs).map .element) := by
  induction cs generalizing b with
  | nil => trivial
  | cons c cs ih =>
    have hcs : ∀ e, some e ∈ cs → Grounded known (target?.bind declared?) e :=
      fun e he => h e (List.mem_cons_of_mem c he)
    cases c with
    | none => exact ih b hcs
    | some e =>
      cases hr : target?.bind (selfReference? · (b.normalized e)) with
      | some refusal =>
        simp only [replaced, hr]
        trivial
      | none =>
        simp only [replaced, hr, List.map_append]
        refine Scoped.append_iff.mpr ⟨b.normalized_scoped (h e (by simp)) hr, ?_⟩
        exact (ih _ hcs).mono fun v => Or.inl

end Builder

def Call.ownVariable? : Call → Option Path
  | joinWhen _ t _ => Builder.declared? t
  | _ => none

/-- The caller declares the variables that the nodes of a condition start from before the call that
gives the condition, or with it. -/
def Call.InOrder (os : List Origin) (c : Call) : Prop :=
  ∀ d ∈ c.conditions, ∀ e ∈ d, Grounded (CallerDeclares os) c.ownVariable? e

instance (os : List Origin) (c : Call) : Decidable (c.InOrder os) :=
  inferInstanceAs
    (Decidable (∀ d ∈ c.conditions, ∀ e ∈ d, Grounded (CallerDeclares os) c.ownVariable? e))

def Builder.InOrder (b : Builder) (os : List Origin) : List Call → Prop
  | [] => True
  | c :: cs => c.InOrder os ∧ (c.perform b).builder.InOrder (c.origins b os) cs

instance Builder.decidableInOrder : (b : Builder) → (os : List Origin) → (calls : List Call) →
    Decidable (b.InOrder os calls)
  | _, _, [] => isTrue trivial
  | b, os, c :: cs =>
    have := decidableInOrder (c.perform b).builder (c.origins b os) cs
    inferInstanceAs (Decidable (c.InOrder os ∧ _))

namespace Scoped

variable {b : Builder} {os : List Origin} {known : Path → Prop}

theorem perform (h : Scoped known os) (ht : Traced b os) {c : Call} (hc : c.InOrder os) :
    Scoped known (c.origins b os) := by
  have hcallers : ∀ v, CallerDeclares os v → known v ∨ Declares os v :=
    fun _ hd => .inr hd.declares
  have happend {es : List Origin} (hes : Scoped (fun v => known v ∨ Declares os v) es) :
      Scoped known (os ++ es) := append_iff.mpr ⟨h, hes⟩
  cases c with
  | sources ts => exact happend (callers _ _ (by simp [Origin.isElement]))
  | join k t | joinAs k t v => exact happend ⟨trivial, trivial⟩
  | joinWhen k t c =>
    cases hr : (b.joinWhen k t c).refusal with
    | some refusal =>
      simp only [Call.origins, hr]
      exact h
    | none =>
      simp only [Call.origins, hr]
      have hrs : Scoped (fun v => known v ∨ Declares os v) ((b.replaced (some t) [c]).map .element) :=
        b.replaced_scoped [c] fun e he x hx => (hc _ he e rfl x hx).imp_left (hcallers _)
      exact append_iff.mpr ⟨happend hrs, trivial, trivial⟩
  | when cs =>
    obtain ⟨hos, -⟩ | ⟨before, k, t, after, rfl, hafter, hos, -⟩ := ht.when_cases cs
    · rw [hos]
      exact h
    · rw [hos]
      -- the elements go in front of the caller's last join, where all of the caller's variables are
      -- declared but for the one of that join itself
      refine h.insert (b.replaced_scoped cs fun e he x hx => ?_)
      obtain hcaller | hown := hc _ he e rfl x hx
      · exact (hcaller.before_last hafter).imp_left .inr
      · cases hown
  | filter cs | having cs =>
    exact happend (b.replaced_scoped cs fun e he x hx => (hc _ he e rfl x hx).imp_left (hcallers _))
  | flag f | groupBy es | orderBy os | project es | distinct | unique | limit n | offset n | restrict w
  | bind p v => exact h

theorem after (h : Scoped known os) (ht : Traced b os) {calls : List Call} (hc : b.InOrder os calls) :
    Scoped known (b.origins os calls) := by
  induction calls generalizing b os with
  | nil => exact h
  | cons c cs ih => exact ih (h.perform ht hc.1) (ht.perform c) hc.2

end Scoped

/-- The joins are well scoped: each element is declared behind the variable that its collection starts
from. -/
structure WellScoped (joins : List (Join Expr)) (os : List Origin) : Prop where
  joined : joins.map (·.joined) = os.map (·.joined)
  declared : ∀ (i : Nat) (r : Replacement), os[i]? = some (.element r) →
    ∃ k < i, ∃ j, joins[k]? = some j ∧ Builder.declared? j.target = some r.collection.rootVariable

theorem after_wellScoped (normalizing : Bool) (calls : List Call)
    (h : (Builder.empty normalizing).InOrder [] calls) :
    WellScoped ((Builder.empty normalizing).after calls).select.joins
      ((Builder.empty normalizing).origins [] calls) := by
  have htraced := (Traced.empty normalizing).after calls
  have hempty : Scoped (fun _ => False) [] := trivial
  have hscoped := hempty.after (.empty normalizing) h
  refine ⟨htraced.joined, fun i r hr => ?_⟩
  obtain hfalse | ⟨o, ho, hd⟩ := hscoped.founded_at hr
  · cases hfalse
  · obtain ⟨k, hk⟩ := List.getElem?_of_mem ho
    rw [List.getElem?_take, Option.ite_none_right_eq_some] at hk
    obtain ⟨hki, hk⟩ := hk
    have hjoin : (((Builder.empty normalizing).after calls).select.joins.map (·.joined))[k]? =
        some o.joined := by
      rw [htraced.joined, List.getElem?_map, hk, Option.map_some]
    rw [List.getElem?_map, Option.map_eq_some_iff] at hjoin
    obtain ⟨j, hj, hjo⟩ := hjoin
    have htarget : j.target = o.joined.2 := congrArg Prod.snd hjo
    exact ⟨k, hki, j, hj, by rw [htarget]; exact hd⟩

/-- A condition on the kittens of cats, before and after the cats are joined. -/
def kittenNamed : Condition :=
  let cat := Path.root "cat" (.entity (.ofType "Cat"))
  let kitten := (cat.collection "kittens" (.entity (.ofType "Cat"))).anyElement
  some (.operation .eq [.path (kitten.property "name" .text), .constant (.text "a")])

def catSource : Call :=
  .sources [.path (.root "cat" (.entity (.ofType "Cat")))]

/-- Given too early, the condition puts the element in front of the cat that it belongs to. -/
theorem kittensFirst_not_wellScoped :
    let calls := [.filter [kittenNamed], catSource]
    let b := Builder.empty true
    (∀ c ∈ calls, ∀ d ∈ c.conditions, ∀ e ∈ d, ∀ v ∈ e.roots, CallerDeclares (b.origins [] calls) v) ∧
      ¬ WellScoped (b.after calls).select.joins (b.origins [] calls) := by
  refine ⟨by decide +kernel, fun h => ?_⟩
  obtain ⟨k, hk, -⟩ := h.declared 0 _ rfl
  exact absurd hk (Nat.not_lt_zero k)

theorem catsFirst_wellScoped :
    let calls := [catSource, .filter [kittenNamed],
      .joinWhen .left (.path (.root "m" .any)) kittenNamed, .when [kittenNamed]]
    let b := Builder.empty true
    b.InOrder [] calls ∧ (b.origins [] calls).length = 5 ∧
      WellScoped (b.after calls).select.joins (b.origins [] calls) := by
  have h : (Builder.empty true).InOrder [] [catSource, .filter [kittenNamed],
      .joinWhen .left (.path (.root "m" .any)) kittenNamed, .when [kittenNamed]] := by
    decide +kernel
  exact ⟨h, by decide +kernel, after_wellScoped true _ h⟩

end QueryText.Query
