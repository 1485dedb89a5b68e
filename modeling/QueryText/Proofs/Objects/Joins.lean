import QueryText.Proofs.Objects.Declared
import QueryText.Proofs.Objects.Receivers
import QueryText.Proofs.Searching.Searches

namespace QueryText

open Render Operand

namespace Select

variable {js : List (Join Expr)}

theorem declarations_eq_ok {vs : List Path} {conditions : List Expr}
    (h : declarations js = .ok (vs, conditions)) :
    ∃ xs, List.Forall₂ (fun j x => declared j = .ok x) js xs ∧ vs = xs.map (·.1) ∧
      conditions = (js.zip xs).flatMap fun (j, x) => x.2 ++ j.condition.toList := by
  induction js generalizing vs conditions with
  | nil =>
    cases h
    exact ⟨[], .nil, rfl, rfl⟩
  | cons j js ih =>
    rw [declarations] at h
    cases hj : declared j with
    | error k =>
      rw [hj] at h
      cases h
    | ok x =>
      cases hjs : declarations js with
      | error k =>
        rw [hj, hjs] at h
        cases h
      | ok rest =>
        rw [hj, hjs] at h
        cases h
        obtain ⟨xs, hxs, hvs, hconditions⟩ := ih hjs
        refine ⟨x :: xs, .cons hj hxs, by rw [hvs, List.map_cons], ?_⟩
        rw [hconditions, List.zip_cons_cons, List.flatMap_cons]

end Select

namespace Render.Query

variable {q : Select Expr} {form : Form} {c : Context} {cs : List Chunk}

theorem objectClauses_filter {name : String} {e : Entity} {first : Join Expr} {rest : List (Join Expr)}
    (h : objectClauses form (q.map Expr.operand).unlimited name e (first.map Expr.operand)
      (rest.map (Join.map Expr.operand)) c = .ok cs) :
    ∃ vs conditions head filter listed tail, Select.declarations rest = .ok (vs, conditions) ∧
      filterClause ((first.condition.toList ++ conditions ++ q.filter.toList).map Expr.operand) c =
        .ok filter ∧
      variablesClause vs c = .ok listed ∧ cs = head ++ filter ++ listed ++ tail := by
  rw [Windowing.PartsOf.objectClauses_map] at h
  obtain ⟨_, tail, hfront, -, rfl⟩ := append_ok h
  obtain ⟨head, _, -, hdeclared, rfl⟩ := append_ok hfront
  rw [Windowing.PartsOf.writeDeclared_map] at hdeclared
  cases hvs : Select.declarations rest with
  | error k =>
    rw [hvs] at hdeclared
    cases hdeclared
  | ok declared =>
    rw [hvs] at hdeclared
    obtain ⟨filter, listed, hfilter, hlisted, rfl⟩ := append_ok hdeclared
    exact ⟨declared.1, declared.2, head, filter, listed, tail, rfl, hfilter, hlisted, by
      simp only [List.append_assoc]⟩

end Render.Query

def JoinKind.isInner : JoinKind → Bool
  | plain | join | inner => true
  | left | right | full => false

namespace Join

/-- What an object query has for a join keeps its meaning: a source of its own is a variable, and the
variable of an inner join is an element of what it goes through, or the one thing that a reference stands
for. -/
inductive KeptAs (d : Context) : Join Expr → Path → List Expr → Prop where
  | source {j : Join Expr} {v : Path} (kind : j.kind = .plain) (target : j.target = .path v)
      (entity : v.rootEntity?.isSome = true) : KeptAs d j v []
  | along {j : Join Expr} {v : Path} {t : Expr} {more ties : List Expr} (kind : j.kind.isInner = true)
      (target : j.target = .operation .asAlias (t :: .path v :: more)) (named : pathText d v = v.name)
      (element : t.kind.isCollection = true → ties = [.operation .isIn [.path v, t]])
      (reference : t.kind.entity?.isSome = true →
        ties = [.operation .eq [.path v, t]] ∨ ties = [.operation .eq [t, .path v]]) : KeptAs d j v ties

/-- Joins that object queries get right. -/
def Simple (d : Context) (j : Join Expr) : Prop :=
  match j.target with
  | .path v => v.rootEntity?.isSome = true
  | .operation .asAlias (t :: .path v :: _) =>
    j.kind.isInner = true ∧ t.kind.entity? = none ∧ pathText d v = v.name
  | _ => True

theorem keptAs_iff {d : Context} {j : Join Expr} {v : Path} {ties : List Expr}
    (h : Select.declared j = .ok (v, ties)) : j.KeptAs d v ties ↔ j.Simple d := by
  unfold Select.declared at h
  unfold Simple
  split at h
  · next t w more htarget =>
    cases h
    simp only [htarget]
    constructor
    · rintro (_ | ⟨hkind, halias, hnamed, -, hreference⟩)
      cases htarget.symm.trans halias
      refine ⟨hkind, ?_, hnamed⟩
      -- the tie of a reference would be an equality
      by_contra hentity
      obtain hties | hties := hreference (Option.isSome_iff_ne_none.mpr hentity) <;> cases hties
    · rintro ⟨hkind, hentity, hnamed⟩
      refine .along hkind htarget hnamed (fun _ => rfl) fun hsome => ?_
      rw [hentity] at hsome
      cases hsome
  · cases h
  · next w htarget =>
    split at h
    · next hplain =>
      cases h
      simp only [Bool.and_eq_true, decide_eq_true_eq] at hplain
      simp only [htarget]
      constructor
      · rintro (⟨-, -, hentity⟩ | ⟨-, halias, -, -, -⟩)
        · exact hentity
        · cases htarget.symm.trans halias
      · exact fun hentity => .source hplain.1 htarget hentity
    · cases h
  · cases h

theorem forall₂_keptAs_iff {d : Context} {js : List (Join Expr)} {xs : List (Path × List Expr)}
    (h : List.Forall₂ (fun j x => Select.declared j = .ok x) js xs) :
    List.Forall₂ (fun j x => j.KeptAs d x.1 x.2) js xs ↔ ∀ j ∈ js, j.Simple d := by
  induction h with
  | nil => simp
  | cons hj _ ih => rw [List.forall₂_cons, keptAs_iff hj, ih, List.forall_mem_cons]

end Join

namespace Expr

variable {c : Context} {cs : List Chunk} {t : Expr} {v : Path}

theorem write_contains (hr : c.rules.operators = Rules.jdoqlOperators) (ht : isEmptyList c t = false)
    (h : (operation .isIn [path v, t]).write c = .ok cs) :
    ∃ collection d, (t.write d = .ok collection ∨ Writer.parenthesized t.write d = .ok collection) ∧
      cs = collection ++ [.text ".contains(", .text (pathText c v), .text ")"] := by
  have hempty : emptyMembership? c .isIn (operands [path v, t]) = none := by
    simp [emptyMembership?, operands_eq_map, expr_operand, ht]
  obtain ⟨rule, hrule, hw⟩ := Windowing.write_operation h hempty
  rw [hr] at hrule
  obtain rfl : ⟨⟨"\x7b1\x7d.contains(\x7b0\x7d)"⟩, none⟩ = rule := Option.some.inj hrule
  have helements : (⟨"\x7b1\x7d.contains(\x7b0\x7d)"⟩ : Pattern).elements =
      [.slot ⟨1, .bare⟩ false, .text ".contains(".toList, .slot ⟨0, .bare⟩ true, .text ")".toList] := by
    decide
  simp only [helements, List.map_cons, List.map_nil, Writer.all] at hw
  generalize hd : comparing (operands [path v, t]) c = d at hw
  obtain ⟨collection, _, hcollection, hcall, rfl⟩ := append_ok hw
  obtain ⟨called, _, hcalled, helement, rfl⟩ := append_ok hcall
  obtain ⟨element, _, hv, hclose, rfl⟩ := append_ok helement
  obtain ⟨closing, _, hclosing, hnothing, rfl⟩ := append_ok hclose
  obtain rfl := Except.ok.inj hcalled
  obtain rfl := Except.ok.inj hclosing
  obtain rfl := Except.ok.inj hnothing
  have helement : element = [.text (pathText c v)] := by
    rw [write_slot _ _ rfl rfl (by decide)] at hv
    change writePath v d = .ok element at hv
    have hcompared : d = { c with compared := some v } := hd.symm
    have hrules : ∀ n, d.rules.identifier n = c.rules.identifier n := fun _ => by rw [hcompared]
    have htext : pathText d v = pathText c v :=
      pathText_congr hrules (by rw [hcompared]) (by rw [hcompared]) v
    rw [← htext]
    exact (writePath_ok_iff.mp hv).2
  rw [write_slot _ _ rfl rfl (by decide)] at hcollection
  refine ⟨collection, d, ?_, by rw [helement]; rfl⟩
  split at hcollection
  · exact .inr hcollection
  · exact .inl hcollection

end Expr

namespace Select

variable {q : Select Expr} {form : Form} {c : Context} {cs : List Chunk}

/-- An object query has the conditions of its joins in their order, each behind what ties its variable, in
front of its filter, and then the variables. Its joins keep their meaning exactly when they are simple. -/
theorem joins_kept_iff (hr : c.rules = .ofDialect .jdoql ∨ c.rules = (Rules.ofDialect .jdoql).onOneLine)
    (h : q.write form c = .ok cs) :
    ∃ first rest xs head filter listed tail, q.joins = first :: rest ∧
      List.Forall₂ (fun j x => declared j = .ok x) rest xs ∧
      Query.filterClause
        ((first.condition.toList ++ (rest.zip xs).flatMap (fun (j, x) => x.2 ++ j.condition.toList) ++
          q.filter.toList).map Expr.operand) (q.ownContext c) = .ok filter ∧
      Query.variablesClause (xs.map (·.1)) (q.ownContext c) = .ok listed ∧
      cs = head ++ filter ++ listed ++ tail ∧
      (∀ d t v ys, d.rules = c.rules → isEmptyList d t = false →
        (Expr.operation .isIn [.path v, t]).write d = .ok ys →
        ∃ collection e, (t.write e = .ok collection ∨ Writer.parenthesized t.write e = .ok collection) ∧
          ys = collection ++ [.text ".contains(", .text (pathText d v), .text ")"]) ∧
      (List.Forall₂ (fun j x => j.KeptAs (q.ownContext c) x.1 x.2) rest xs ↔
        ∀ j ∈ rest, j.Simple (q.ownContext c)) := by
  have hg : c.rules.grammar = .jdoql := by
    obtain hr | hr := hr <;> rw [hr] <;> rfl
  have hoperators : c.rules.operators = Rules.jdoqlOperators := by
    obtain hr | hr := hr
    · rw [hr]
      rfl
    · rw [hr]
      exact funext (Rules.operators_onOneLine .jdoql)
  obtain ⟨ys, window, hys, rfl⟩ := Query.unlimited_of_write h
  obtain ⟨first, rest, x, e, hq, hx, hclauses⟩ := Query.objectClauses_of_write hg hys
  rw [← Windowing.ownContext_candidate hg hq hx] at hclauses
  obtain ⟨vs, conditions, head, filter, listed, tail, hvs, hfilter, hlisted, rfl⟩ :=
    Query.objectClauses_filter hclauses
  obtain ⟨xs, hxs, rfl, rfl⟩ := declarations_eq_ok hvs
  refine ⟨first, rest, xs, head, filter, listed, tail ++ window, hq, hxs, hfilter, hlisted,
    by simp only [List.append_assoc], ?_, Join.forall₂_keptAs_iff hxs⟩
  intro d t v ys hd ht hw
  exact Expr.write_contains (hd ▸ hoperators) ht hw

end Select

namespace Kittens

def mother : Path :=
  .source (.ofType "Cat") "cat"

def kitten : Path :=
  .source (.ofType "Cat") "kitten"

/-- Values are bound. -/
def objects : Context :=
  .of (.ofDialect .jdoql) .resolving false []

/-- Cats, joined along that path to what is called Tom. -/
def kittensBy (kind : JoinKind) (along : Path) : Select Expr :=
  { Select.empty with
    joins := [.of .plain (.path mother),
      { kind, target := .aliased (.path along) kitten, flags := []
        condition := some (.operation .eq [.path (kitten.property "name" .text), .constant (.text "Tom")]) }] }

def kittens : Path :=
  mother.collection "kittens" (.entity (.ofType "Cat"))

/-- A single cat. -/
def mate : Path :=
  mother.property "mate" (.entity (.ofType "Cat"))

/-- The variable of an inner join is an element of the collection. -/
theorem joins_kept_iff_kittens : ∃ cs xs, (kittensBy .inner kittens).write .rows objects = .ok cs ∧
    Chunk.fullText objects.rules cs =
      "FROM Cat\nWHERE this.kittens.contains(kitten) && kitten.name == :a1\nVARIABLES Cat kitten" ∧
    List.Forall₂ (fun j x => Select.declared j = .ok x) (kittensBy .inner kittens).joins.tail xs ∧
    List.Forall₂ (fun j x => j.KeptAs ((kittensBy .inner kittens).ownContext objects) x.1 x.2)
      (kittensBy .inner kittens).joins.tail xs := by
  have hwritten : (kittensBy .inner kittens).write .rows objects = .ok _ := rfl
  obtain ⟨first, rest, xs, _, _, _, _, hq, hxs, -, -, -, -, hkept⟩ :=
    Select.joins_kept_iff (.inl rfl) hwritten
  have hrest : (kittensBy .inner kittens).joins.tail = rest := congrArg List.tail hq
  refine ⟨_, xs, rfl, by decide +kernel, hrest ▸ hxs, hrest ▸ hkept.mpr ?_⟩
  intro j hj
  rw [← hrest] at hj
  obtain rfl := List.mem_singleton.mp hj
  exact ⟨rfl, rfl, by decide⟩

/-- The variable of an outer join is that, too, and so is the one that stands for a reference. -/
theorem kittens_not_kept :
    (∃ cs xs, (kittensBy .left kittens).write .rows objects = .ok cs ∧
      (kittensBy .inner kittens).write .rows objects = .ok cs ∧
      List.Forall₂ (fun j x => Select.declared j = .ok x) (kittensBy .left kittens).joins.tail xs ∧
      ¬List.Forall₂ (fun j x => j.KeptAs ((kittensBy .left kittens).ownContext objects) x.1 x.2)
        (kittensBy .left kittens).joins.tail xs) ∧
    ∃ cs xs, (kittensBy .inner mate).write .rows objects = .ok cs ∧
      Chunk.fullText objects.rules cs =
        "FROM Cat\nWHERE this.mate.contains(kitten) && kitten.name == :a1\nVARIABLES Cat kitten" ∧
      List.Forall₂ (fun j x => Select.declared j = .ok x) (kittensBy .inner mate).joins.tail xs ∧
      ¬List.Forall₂ (fun j x => j.KeptAs ((kittensBy .inner mate).ownContext objects) x.1 x.2)
        (kittensBy .inner mate).joins.tail xs := by
  constructor
  · have hdeclared : List.Forall₂ (fun j x => Select.declared j = .ok x) (kittensBy .left kittens).joins.tail
        [(kitten, [.operation .isIn [.path kitten, .path kittens]])] := .cons rfl .nil
    refine ⟨_, _, rfl, rfl, hdeclared, fun h => ?_⟩
    have hsimple := (Join.forall₂_keptAs_iff hdeclared).mp h _ List.mem_cons_self
    cases hsimple.1
  · have hdeclared : List.Forall₂ (fun j x => Select.declared j = .ok x) (kittensBy .inner mate).joins.tail
        [(kitten, [.operation .isIn [.path kitten, .path mate]])] := .cons rfl .nil
    refine ⟨_, _, rfl, by decide +kernel, hdeclared, fun h => ?_⟩
    have hsimple := (Join.forall₂_keptAs_iff hdeclared).mp h _ List.mem_cons_self
    cases hsimple.2.1

end Kittens

end QueryText
