import Mathlib.Algebra.GroupWithZero.Nat
import Mathlib.Data.List.Nodup
import QueryText.Proofs.AnyPath.Filling
import QueryText.Proofs.Building.Origin

namespace QueryText

def Event.joinsAdded : Event → Nat
  | .normalized n => n
  | _ => 0

namespace Query

open AnyPath

def Numbered (first : Nat) (rs : List Replacement) : Prop :=
  ∀ (i : Nat) (r : Replacement), rs[i]? = some r →
    r.element.name = Replacements.elementName r.collection (first + i)

namespace Numbered

variable {first : Nat} {rs rs' : List Replacement}

theorem nil (first : Nat) : Numbered first [] := by
  intro i r h
  simp at h

theorem ofTable (h : Table first rs) : Numbered first rs := by
  intro i r hr
  rw [(h.row hr).element]
  rfl

theorem append (h : Numbered first rs) (h' : Numbered (first + rs.length) rs') :
    Numbered first (rs ++ rs') := by
  intro i r hr
  rw [List.getElem?_append] at hr
  split at hr
  · exact h i r hr
  · have hname := h' (i - rs.length) r hr
    rwa [show first + rs.length + (i - rs.length) = first + i by omega] at hname

theorem eq_of_name_eq (h : Numbered first rs) {i j : Nat} {r r' : Replacement} (hr : rs[i]? = some r)
    (hr' : rs[j]? = some r') (hname : r.element.name = r'.element.name) : i = j := by
  rw [h i r hr, h j r' hr'] at hname
  have hnumber := Replacements.number_eq_of_elementName_eq hname
  omega

theorem names_nodup (h : Numbered first rs) : (rs.map (·.element.name)).Nodup := by
  rw [List.nodup_iff_getElem?_ne_getElem?]
  intro i j hij hj heq
  rw [List.length_map] at hj
  obtain ⟨r', hr'⟩ : ∃ r', rs[j]? = some r' := ⟨rs[j], List.getElem?_eq_getElem hj⟩
  obtain ⟨r, hr⟩ : ∃ r, rs[i]? = some r := ⟨rs[i], List.getElem?_eq_getElem (hij.trans hj)⟩
  simp only [List.getElem?_map, hr, hr', Option.map_some, Option.some.injEq] at heq
  exact absurd (h.eq_of_name_eq hr hr' heq) (Nat.ne_of_lt hij)

end Numbered

/-- The step numbers these elements from `first` on and goes on behind them, and it reports them all. -/
structure Makes (normalizing : Bool) (first : Nat) (rs : List Replacement) (s : Step) : Prop where
  normalizing : s.builder.normalizing = normalizing
  numbered : Numbered first rs
  next : s.builder.nextElement = first + rs.length
  reported : (s.events.map (·.joinsAdded)).sum = rs.length

namespace Makes

variable {normalizing : Bool} {first : Nat} {rs rs' : List Replacement} {s s' : Step}

theorem none (hnormalizing : s.builder.normalizing = normalizing) (hnext : s.builder.nextElement = first)
    (hevents : s.events = []) : Makes normalizing first [] s :=
  ⟨hnormalizing, .nil first, hnext, by rw [hevents]; rfl⟩

theorem andThen (h : Makes normalizing first rs s)
    (h' : Makes s.builder.normalizing s.builder.nextElement rs' s') :
    Makes normalizing first (rs ++ rs') { s' with events := s.events ++ s'.events } where
  normalizing := h'.normalizing.trans h.normalizing
  numbered := h.numbered.append (h.next ▸ h'.numbered)
  next := by
    rw [List.length_append, ← Nat.add_assoc, ← h.next]
    exact h'.next
  reported := by
    rw [List.map_append, List.sum_append, h.reported, h'.reported, List.length_append]

end Makes

namespace Builder

variable {b : Builder} {q : Select Expr}

theorem reported_normalizedEvents (n : Normalized) :
    ((normalizedEvents n).map (·.joinsAdded)).sum = n.replaced.length := by
  unfold normalizedEvents
  split
  · next hempty => simp [List.isEmpty_iff.mp hempty]
  · simp [Event.joinsAdded]

theorem normalized_makes (b : Builder) (e : Expr) (q : Select Expr) (refusal : Option QueryError) :
    let n := b.normalized e
    Makes b.normalizing b.nextElement n.replaced
      ⟨⟨q, b.normalizing, n.next⟩, normalizedEvents n, refusal⟩ := by
  intro n
  have hn : Numbered b.nextElement n.replaced ∧ n.next = b.nextElement + n.replaced.length := by
    simp only [n, normalized]
    split
    · obtain ⟨rs, ht, -, hrs⟩ := normalize_eq e b.nextElement
      rw [hrs]
      exact ⟨.ofTable ht, rfl⟩
    · exact ⟨.nil _, rfl⟩
  exact ⟨rfl, hn.1, hn.2, reported_normalizedEvents n⟩

/-- The nodes that are replaced in the condition that is refused, if there is one. -/
def rejected (target? : Option Expr) (b : Builder) : List Condition → List Replacement
  | [] => []
  | none :: cs => b.rejected target? cs
  | some e :: cs =>
    let n := b.normalized e
    match target?.bind (selfReference? · n) with
    | some _ => n.replaced
    | none => { b with nextElement := n.next }.rejected target? cs

theorem rejected_none (b : Builder) (cs : List Condition) : b.rejected none cs = [] := by
  induction cs generalizing b with
  | nil => rfl
  | cons c cs ih =>
    cases c with
    | none => exact ih b
    | some e => exact ih _

/-- The nodes that are replaced, the refused condition's included. -/
def made (target? : Option Expr) (b : Builder) (cs : List Condition) : List Replacement :=
  b.replaced target? cs ++ b.rejected target? cs

theorem made_refused (target? : Option Expr) {e : Expr} {refusal : QueryError} (cs : List Condition)
    (h : target?.bind (selfReference? · (b.normalized e)) = some refusal) :
    b.made target? (some e :: cs) = (b.normalized e).replaced := by
  simp only [made, replaced, rejected, h, List.nil_append]

theorem made_accepted (target? : Option Expr) {e : Expr} (cs : List Condition)
    (h : target?.bind (selfReference? · (b.normalized e)) = none) :
    b.made target? (some e :: cs) =
      (b.normalized e).replaced ++ { b with nextElement := (b.normalized e).next }.made target? cs := by
  simp only [made, replaced, rejected, h, List.append_assoc]

theorem addConditions_makes (add : Select Expr → Expr → Select Expr) (cs : List Condition)
    (b : Builder) (q : Select Expr) :
    Makes b.normalizing b.nextElement (b.made none cs) ({ b with select := q }.addConditions add cs) := by
  induction cs generalizing b q with
  | nil => exact .none rfl rfl rfl
  | cons c cs ih =>
    cases c with
    | none => exact ih b q
    | some e =>
      have he := b.normalized_makes e
        (add (q.addSyntheticJoins (b.normalized e).joins) (b.normalized e).condition) none
      rw [made_accepted none cs rfl]
      exact he.andThen (ih { b with nextElement := (b.normalized e).next } _)

theorem joinWhen_makes (b : Builder) (k : JoinKind) (t : Expr) (c : Condition) :
    Makes b.normalizing b.nextElement (b.made (some t) [c]) (b.joinWhen k t c) := by
  cases c with
  | none => exact .none rfl rfl rfl
  | some e =>
    cases hr : selfReference? t (b.normalized e) with
    | some refusal =>
      rw [made_refused (some t) [] hr]
      simp only [joinWhen, hr]
      exact b.normalized_makes e _ _
    | none =>
      rw [made_accepted (some t) [] hr, made, replaced, rejected, List.append_nil, List.append_nil]
      simp only [joinWhen, hr]
      exact b.normalized_makes e _ _

theorem joinConditions_makes {before after : List (Join Expr)} {j : Join Expr} (target : Expr)
    (cs : List Condition) (hjoins : q.joins = before ++ j :: after)
    (hcurrent : q.current = some before.length) :
    Makes b.normalizing b.nextElement (b.made (some target) cs)
      ({ b with select := q }.joinConditions target cs) := by
  induction cs generalizing b q before j with
  | nil => exact .none rfl rfl rfl
  | cons c cs ih =>
    cases c with
    | none => exact ih hjoins hcurrent
    | some e =>
      cases hr : selfReference? target (b.normalized e) with
      | some refusal =>
        rw [made_refused (some target) cs hr, joinConditions_refused cs hr]
        exact b.normalized_makes e _ _
      | none =>
        rw [made_accepted (some target) cs hr, joinConditions_accepted cs hr hjoins hcurrent]
        exact (b.normalized_makes e _ none).andThen
          (ih (b := { b with nextElement := (b.normalized e).next }) rfl rfl)

end Builder

end Query

namespace Select

theorem exists_of_currentJoin? {q : Select Expr} {j : Join Expr} (h : q.currentJoin? = some j) :
    ∃ before after, q.joins = before ++ j :: after ∧ q.current = some before.length := by
  obtain ⟨i, hi, hj⟩ := Option.bind_eq_some_iff.mp h
  obtain ⟨hlt, rfl⟩ := List.getElem?_eq_some_iff.mp hj
  refine ⟨q.joins.take i, q.joins.drop (i + 1), ?_, ?_⟩
  · rw [← List.drop_eq_getElem_cons hlt, List.take_append_drop]
  · rw [List.length_take, Nat.min_eq_left hlt.le, hi]

end Select

namespace Query

open AnyPath

namespace Call

/-- The elements that a call puts into the query. -/
def added (b : Builder) : Call → List Replacement
  | joinWhen _ t c => b.replaced (some t) [c]
  | when cs => (b.select.currentJoin?.map fun j => b.replaced (some j.target) cs).getD []
  | filter cs | having cs => b.replaced none cs
  | _ => []

/-- The elements of the condition that a call is refused for. -/
def rejected (b : Builder) : Call → List Replacement
  | joinWhen _ t c => b.rejected (some t) [c]
  | when cs => (b.select.currentJoin?.map fun j => b.rejected (some j.target) cs).getD []
  | _ => []

/-- The elements that the conditions of a call are given, whether the call is refused or not. -/
def made (b : Builder) (c : Call) : List Replacement :=
  c.added b ++ c.rejected b

theorem perform_makes (b : Builder) (c : Call) :
    Makes b.normalizing b.nextElement (c.made b) (c.perform b) := by
  cases c with
  | joinWhen k t c => exact b.joinWhen_makes k t c
  | when cs =>
    cases hj : b.select.currentJoin? with
    | none =>
      simp only [made, added, rejected, perform, Builder.when, hj]
      exact .none rfl rfl rfl
    | some j =>
      obtain ⟨before, after, hjoins, hcurrent⟩ := Select.exists_of_currentJoin? hj
      simp only [made, added, rejected, perform, Builder.when, hj]
      exact Builder.joinConditions_makes (b := b) j.target cs hjoins hcurrent
  | filter cs | having cs =>
    have hmade := b.addConditions_makes
    simp only [Builder.made, Builder.rejected_none] at hmade
    exact hmade _ cs b.select
  | flag f =>
    simp only [perform, Builder.addFlag, Builder.attempt]
    split <;> exact .none rfl rfl rfl
  | sources ts | join k t | joinAs k t v | groupBy es | orderBy os | project es | distinct | unique
  | limit n | offset n | restrict w | bind p v => exact .none rfl rfl rfl

end Call

namespace Builder

/-- What is gathered from each of the calls, performed in turn. -/
def gather {α : Type} (f : Builder → Call → List α) (b : Builder) : List Call → List α
  | [] => []
  | c :: cs => f b c ++ (c.perform b).builder.gather f cs

theorem gather_sublist {α : Type} {f g : Builder → Call → List α} (h : ∀ b c, (f b c).Sublist (g b c))
    (b : Builder) (calls : List Call) : (b.gather f calls).Sublist (b.gather g calls) := by
  induction calls generalizing b with
  | nil => exact .slnil
  | cons c cs ih => exact (h b c).append (ih _)

theorem gather_append {α : Type} (f : Builder → Call → List α) (b : Builder) (calls more : List Call) :
    b.gather f (calls ++ more) = b.gather f calls ++ (b.after calls).gather f more := by
  induction calls generalizing b with
  | nil => rfl
  | cons c cs ih =>
    rw [List.cons_append, gather, ih, ← List.append_assoc]
    rfl

theorem normalizing_after (b : Builder) (calls : List Call) :
    (b.after calls).normalizing = b.normalizing := by
  induction calls generalizing b with
  | nil => rfl
  | cons c cs ih => exact (ih _).trans (c.perform_makes b).normalizing

theorem gather_numbered (b : Builder) (calls : List Call) :
    Numbered b.nextElement (b.gather Call.made calls) := by
  induction calls generalizing b with
  | nil => exact .nil _
  | cons c cs ih =>
    have hc := c.perform_makes b
    exact hc.numbered.append (hc.next ▸ ih _)

end Builder

namespace Origin

def element? : Origin → Option Replacement
  | caller _ _ => none
  | element r => some r

def elements (os : List Origin) : List Replacement :=
  os.filterMap element?

@[simp] theorem elements_append (os os' : List Origin) :
    elements (os ++ os') = elements os ++ elements os' :=
  List.filterMap_append

@[simp] theorem elements_caller (k : JoinKind) (t : Expr) : elements [caller k t] = [] :=
  rfl

@[simp] theorem elements_callers (ts : List Expr) : elements (ts.map (caller .plain)) = [] := by
  simp [elements, List.filterMap_map, element?]

@[simp] theorem elements_map (rs : List Replacement) : elements (rs.map element) = rs := by
  simp [elements, List.filterMap_map, Function.comp_def, element?]

end Origin

theorem Builder.replaced_of_refused {b : Builder} {k : JoinKind} {t : Expr} {c : Condition}
    {refusal : QueryError} (h : (b.joinWhen k t c).refusal = some refusal) :
    b.replaced (some t) [c] = [] := by
  cases c with
  | none => cases h
  | some e =>
    cases hr : selfReference? t (b.normalized e) with
    | some _ => simp [replaced, hr]
    | none => simp [joinWhen, hr] at h

open Origin (elements)

theorem Call.origins_perm (b : Builder) (os : List Origin) (c : Call) :
    (elements (c.origins b os)).Perm (elements os ++ c.added b) := by
  cases c with
  | sources ts | join k t | joinAs k t v => simp [origins, added]
  | joinWhen k t c =>
    cases hr : (b.joinWhen k t c).refusal with
    | some refusal => simp [origins, added, hr, Builder.replaced_of_refused hr]
    | none => simp [origins, added, hr]
  | when cs =>
    cases hj : b.select.currentJoin? with
    | none => simp [origins, added, hj]
    | some j =>
      obtain ⟨i, hi, -⟩ := Option.bind_eq_some_iff.mp hj
      have hos : elements os = elements (os.take i) ++ elements (os.drop i) := by
        rw [← Origin.elements_append, List.take_append_drop]
      -- the new elements stand in front of the current join
      simp only [origins, added, hi, hj, Option.map_some, Option.getD_some, Origin.elements_append,
        Origin.elements_map, hos, List.append_assoc]
      exact .append_left _ List.perm_append_comm
  | filter cs | having cs => simp [origins, added]
  | flag f | groupBy es | orderBy os | project es | distinct | unique | limit n | offset n | restrict w
  | bind p v => simp [origins, added]

theorem Builder.origins_perm (b : Builder) (os : List Origin) (calls : List Call) :
    (elements (b.origins os calls)).Perm (elements os ++ b.gather Call.added calls) := by
  induction calls generalizing b os with
  | nil => simp [origins, gather]
  | cons c cs ih =>
    have hc := (c.origins_perm b os).append_right ((c.perform b).builder.gather Call.added cs)
    rw [List.append_assoc] at hc
    exact (ih _ _).trans hc

theorem Origin.eq_of_elements_nodup {os : List Origin} (h : ((elements os).map (·.element.name)).Nodup)
    {i j : Nat} {r r' : Replacement} (hi : os[i]? = some (.element r)) (hj : os[j]? = some (.element r'))
    (hname : r.element.name = r'.element.name) : i = j := by
  rw [elements, List.Nodup, List.pairwise_map, List.pairwise_filterMap, List.pairwise_iff_getElem] at h
  obtain ⟨hi, hri⟩ := List.getElem?_eq_some_iff.mp hi
  obtain ⟨hj, hrj⟩ := List.getElem?_eq_some_iff.mp hj
  obtain hlt | heq | hlt := Nat.lt_trichotomy i j
  · exact absurd hname (h i j hi hj hlt r (by rw [hri]; rfl) r' (by rw [hrj]; rfl))
  · exact heq
  · exact absurd hname.symm (h j i hj hi hlt r' (by rw [hrj]; rfl) r (by rw [hri]; rfl))

theorem Builder.mem_nodes_made {b : Builder} (hb : b.normalizing = true) (target? : Option Expr)
    {cs : List Condition} (h : ∀ n ∈ b.normalizedAll cs, target?.bind (selfReference? · n) = none)
    (x : Path) : x ∈ nodesOf (b.made target? cs) ↔ ∃ e, some e ∈ cs ∧ x ∈ e.anyNodes := by
  induction cs generalizing b with
  | nil => simp [made, replaced, rejected, nodesOf]
  | cons c cs ih =>
    cases c with
    | none =>
      have hcs := ih hb h
      rw [made] at hcs ⊢
      simpa [replaced, rejected] using hcs
    | some e =>
      have hnodes : x ∈ nodesOf (b.normalized e).replaced ↔ x ∈ e.anyNodes := by
        obtain ⟨rs, -, hnodes, hn⟩ := normalize_eq e b.nextElement
        rw [normalized, if_pos hb, hn]
        exact hnodes x
      have hcs := ih (b := { b with nextElement := (b.normalized e).next }) hb
        fun n hn => h n (List.mem_cons_of_mem _ hn)
      rw [made_accepted target? cs (h _ List.mem_cons_self), nodesOf, List.map_append, List.mem_append,
        ← nodesOf, ← nodesOf, hnodes, hcs]
      simp

theorem Call.mem_nodes_made {b : Builder} (hb : b.normalizing = true) {c : Call}
    (h : (c.perform b).refusal = none) (x : Path) :
    x ∈ nodesOf (c.made b) ↔ ∃ e, some e ∈ c.conditions ∧ x ∈ e.anyNodes := by
  cases c with
  | joinWhen k t c =>
    refine Builder.mem_nodes_made hb (some t) (fun n hn => ?_) x
    cases c with
    | none => cases hn
    | some e =>
      obtain rfl := List.mem_singleton.mp hn
      cases hr : Builder.selfReference? t (b.normalized e) with
      | some refusal => simp [perform, Builder.joinWhen, hr] at h
      | none => exact hr
  | when cs =>
    cases hj : b.select.currentJoin? with
    | none => simp [perform, Builder.when, hj] at h
    | some j =>
      obtain ⟨before, after, hjoins, hcurrent⟩ := Select.exists_of_currentJoin? hj
      have hfind := Builder.joinConditions_refusal (b := b) (q := b.select) j.target cs hjoins hcurrent
      simp only [perform, Builder.when, hj] at h
      rw [h] at hfind
      simp only [made, added, rejected, hj]
      exact Builder.mem_nodes_made hb (some j.target)
        (List.findSome?_eq_none_iff.mp hfind.symm) x
  | filter cs | having cs =>
    have hcs : x ∈ nodesOf (b.made none cs) ↔ _ := Builder.mem_nodes_made hb none (fun _ _ => rfl) x
    rwa [Builder.made, Builder.rejected_none] at hcs
  | flag f | sources ts | join k t | joinAs k t v | groupBy es | orderBy os | project es | distinct
  | unique | limit n | offset n | restrict w | bind p v =>
    simp [made, added, rejected, nodesOf, conditions]

/-- Whatever the collections are called, and whatever calls are refused: no two joins for elements declare
variables of the same name, and different calls never give the nodes of their conditions elements of the
same name. -/
theorem after_elements_apart (normalizing : Bool) (calls : List Call) :
    let b := Builder.empty normalizing
    let os := b.origins [] calls
    (b.after calls).select.joins.map (·.joined) = os.map (·.joined) ∧
      (∀ (i j : Nat) (r r' : Replacement), os[i]? = some (.element r) → os[j]? = some (.element r') →
        r.element.name = r'.element.name → i = j) ∧
      (∀ front c between c', front ++ c :: between ++ [c'] <+: calls →
        ∀ r ∈ c.made (b.after front), ∀ r' ∈ c'.made (b.after (front ++ c :: between)),
          r.element.name ≠ r'.element.name) ∧
      (normalizing = true → ∀ front c, front ++ [c] <+: calls →
        (c.perform (b.after front)).refusal = none →
          ∀ x, x ∈ nodesOf (c.made (b.after front)) ↔ ∃ e, some e ∈ c.conditions ∧ x ∈ e.anyNodes) := by
  intro b os
  -- what all calls make is one list of different names, and any two calls make two parts of it
  have hmade := (b.gather_numbered calls).names_nodup
  have hdeclared : ((elements os).map (·.element.name)).Nodup := by
    have hadded := Builder.gather_sublist (fun b c => List.sublist_append_left (c.added b) (c.rejected b))
      b calls
    have hperm := (b.origins_perm [] calls).map (·.element.name)
    exact hperm.nodup_iff.mpr (hmade.sublist (hadded.map _))
  refine ⟨((Traced.empty normalizing).after calls).joined,
    fun i j r r' => Origin.eq_of_elements_nodup hdeclared, ?_, fun hn front c _ hc x => ?_⟩
  · rintro front c between c' ⟨behind, rfl⟩ r hr r' hr' hname
    rw [Builder.gather_append, Builder.gather_append, List.map_append, List.map_append] at hmade
    have hapart := (List.nodup_append.mp (List.nodup_append.mp hmade).1).2.2
    refine hapart _ ?_ _ ?_ hname
    · rw [Builder.gather_append, List.map_append]
      exact List.mem_append_right _ (List.mem_map_of_mem (List.mem_append_left _ hr))
    · exact List.mem_map_of_mem (List.mem_append_left _ hr')
  · refine Call.mem_nodes_made ?_ hc x
    rw [Builder.normalizing_after]
    exact hn

end Query

end QueryText
